import Codaze.Accounts.Tokens
import Codaze.Failover.Gateway

/-!
# What a request does to the loads of the accounts

A request occupies an account from its selection to its settlement, and refreshes it from
a selection that needs a refresh to the end of `finish_refresh_success` or
`finish_refresh_failure`. `RequestMove` lists what one resumption can do in these terms.
-/
namespace Codaze.Failover
open Foundation Accounts

/-- The selection is not settled yet. After `prepare_auth_invalid_failure` it is. -/
def Stage.occupies : Stage → Bool
  | trashing _ | noting _ _ | finalizing _ => false
  | _ => true

/-- Between the selection and `finish_refresh_success` or `finish_refresh_failure`. -/
def Stage.refreshes : Stage → Bool
  | refreshing | answered _ | committing _ | preparing _ | failingRefresh _ => true
  | _ => false

theorem Stage.occupies_of_refreshes {stage : Stage} (h : stage.refreshes = true) :
    stage.occupies = true := by
  cases stage <;> first | rfl | cases h

def RequestPc.occupies? : RequestPc → Option String
  | selected selection stage => if stage.occupies then some selection.accountId else none
  | _ => none

/-- The selection a request is refreshing. -/
def RequestPc.refreshes? : RequestPc → Option AccountSelection
  | selected selection stage => if stage.refreshes then some selection else none
  | _ => none

theorem RequestPc.occupies?_of_refreshes? {pc : RequestPc} {selection : AccountSelection}
    (h : pc.refreshes? = some selection) : pc.occupies? = some selection.accountId := by
  cases pc with
  | selected selection' stage =>
    simp only [refreshes?] at h
    split at h
    next hrefreshes =>
      cases h
      simp [occupies?, Stage.occupies_of_refreshes hrefreshes]
    next => cases h
  | _ => cases h

theorem RequestPc.refreshes?_of_occupies? {pc : RequestPc} (h : pc.occupies? = none) :
    pc.refreshes? = none := by
  cases hrefreshes : pc.refreshes? with
  | none => rfl
  | some selection => simp [occupies?_of_refreshes? hrefreshes] at h

/-- The operations that settle one selection of an account. -/
inductive Settles (id : String) : List StoreOp → Prop
  | one {op} (h : op.settles? = some id) : Settles id [op]
  | invalidated {op} (h : op.settles? = some id) : Settles id [.invalidate id, op]

theorem Settles.clears? {id : String} {ops : List StoreOp} (h : Settles id ops) :
    ∀ op ∈ ops, op.clears? = some id := by
  cases h with
  | one hop => simpa using StoreOp.clears?_of_settles? hop
  | invalidated hop => simpa using ⟨rfl, StoreOp.clears?_of_settles? hop⟩

/-- One resumption of a request: its operations, by what they select, clear and settle. -/
inductive RequestMove (view : View) : RequestPc → List StoreOp → RequestPc → Prop
  | quiet {pc ops pc'} (hops : ∀ op ∈ ops, op.selects = false ∧ op.clears? = none)
      (hupserts : ∀ op ∈ ops, op.upserts = []) (hoccupies : pc'.occupies? = pc.occupies?)
      (hrefreshes : pc'.refreshes? = pc.refreshes?) :
      RequestMove view pc ops pc'
  | select {policy skew excluded selection store stage}
      (h : view.store.selectAccount view.now policy skew excluded = (.ok selection, store))
      (hoccupies : stage.occupies = true) (hrefreshes : stage.refreshes = selection.needsRefresh) :
      RequestMove view .selecting [.select policy skew excluded] (.selected selection stage)
  | unselected {policy skew excluded error store result}
      (h : view.store.selectAccount view.now policy skew excluded = (.error error, store)) :
      RequestMove view .selecting [.select policy skew excluded, .sweep] (.finished result)
  | commit {selection refreshed stage} (hoccupies : stage.occupies = true)
      (hrefreshes : stage.refreshes = false) :
      RequestMove view (.selected selection (.committing refreshed))
        [.refreshSuccess selection.accountId refreshed] (.selected selection stage)
  | uncommitted {selection refreshed} (h : view.store.record? selection.accountId = none) :
      RequestMove view (.selected selection (.committing refreshed)) []
        (.selected selection .abandoning)
  | settle {pc ops pc' id} (hoccupies : pc.occupies? = some id) (hops : Settles id ops)
      (hsettled : pc'.occupies? = none) : RequestMove view pc ops pc'
  | unprepared {selection failure pc'} (h : view.store.record? selection.accountId = none)
      (hsettled : pc'.occupies? = none) :
      RequestMove view (.selected selection (.preparing failure)) [] pc'

variable {view : View} {run : FailoverRun} {selection : AccountSelection} {next : Resumption}

/-- A failure settles the selection whether or not it panics. -/
theorem settleFailure_move {store : AccountStore} {pc pc' : RequestPc} {before : List StoreOp}
    {failure : FailureClass} {retryAfter : Option StdDuration} {details : String}
    (hoccupies : pc.occupies? = some selection.accountId)
    (hbefore : before = [] ∨ before = [.invalidate selection.accountId])
    (hsettled : pc'.occupies? = none) :
    let next := settleFailure view store run pc' before selection.accountId failure retryAfter
      details
    RequestMove view pc next.ops next.pc := by
  intro next
  refine .settle hoccupies ?_ ?_
  · rcases hbefore with rfl | rfl
    · exact .one rfl
    · exact .invalidated rfl
  · simp only [next, settleFailure]
    split
    · exact hsettled
    · rfl

theorem resumeSelecting_move (config : Config) (view : View) (run : FailoverRun) :
    let next := resumeSelecting config view run
    RequestMove view .selecting next.ops next.pc := by
  intro next
  simp only [next, resumeSelecting]
  split
  next selection _ hselect =>
    refine .select hselect ?_ ?_
    · split <;> rfl
    · cases hneeds : selection.needsRefresh <;> rfl
  next hselect => exact .unselected hselect

theorem resumeExecuteFailed_move (view : View) (run : FailoverRun)
    (selection : AccountSelection) (error : TransportError) :
    let next := resumeExecuteFailed view run selection error
    RequestMove view (.selected selection (.executeFailed error)) next.ops next.pc := by
  intro next
  simp only [next, resumeExecuteFailed]
  split
  next =>
    split
    next => exact settleFailure_move rfl (.inr rfl) rfl
    next => exact .settle rfl (.invalidated rfl) rfl
  next =>
    split
    next => exact settleFailure_move rfl (.inl rfl) rfl
    next => exact settleFailure_move rfl (.inl rfl) rfl

theorem resumeStage_move {config : Config} {stage : Stage} {input : Input}
    (h : resumeStage config view run selection stage input = some next) :
    RequestMove view (.selected selection stage) next.ops next.pc := by
  have hquiet {stage' : Stage} (hoccupies : stage'.occupies = stage.occupies)
      (hrefreshes : stage'.refreshes = stage.refreshes) :
      RequestMove view (.selected selection stage) [] (.selected selection stage') :=
    .quiet (by simp) (by simp) (by simp [RequestPc.occupies?, hoccupies])
      (by simp [RequestPc.refreshes?, hrefreshes])
  cases stage with
  | refreshing =>
    cases input with
    | refreshReply reply =>
      obtain rfl := Option.some.inj h
      exact hquiet rfl rfl
    | _ => cases h
  | answered result =>
    cases input with
    | scheduled =>
      obtain rfl := Option.some.inj h
      unfold resumeAnswered
      split
      next => exact hquiet rfl rfl
      next =>
        split
        next => exact hquiet rfl rfl
        next => exact hquiet rfl rfl
    | _ => cases h
  | committing refreshed =>
    cases input with
    | scheduled =>
      simp only [resumeStage, Option.ite_none_right_eq_some, Option.some.injEq] at h
      obtain ⟨-, rfl⟩ := h
      unfold resumeCommitting
      split
      next hnone =>
        exact .uncommitted
          (by simpa [AccountStore.finishRefreshSuccessWithoutPersist] using hnone)
      next => exact .commit rfl rfl
      next => exact .commit rfl rfl
    | _ => cases h
  | persisting =>
    cases input with
    | scheduled =>
      obtain ⟨_, -, rfl⟩ := Option.map_eq_some_iff.mp h
      exact hquiet rfl rfl
    | _ => cases h
  | abandoning =>
    cases input with
    | scheduled =>
      obtain rfl := Option.some.inj h
      exact .settle rfl (.one rfl) rfl
    | _ => cases h
  | preparing failure =>
    cases input with
    | scheduled =>
      simp only [resumeStage, Option.ite_none_right_eq_some, Option.some.injEq] at h
      obtain ⟨-, rfl⟩ := h
      unfold resumePreparing
      split
      next hnone =>
        exact .unprepared (by simpa [AccountStore.prepareAuthInvalidFailure] using hnone) rfl
      next => exact .settle rfl (.one rfl) rfl
      next => exact .settle rfl (.one rfl) rfl
    | _ => cases h
  | trashing failure =>
    cases input with
    | scheduled =>
      obtain ⟨result, -, rfl⟩ := Option.map_eq_some_iff.mp h
      cases result <;> exact hquiet rfl rfl
    | _ => cases h
  | noting failure error =>
    cases input with
    | scheduled =>
      obtain rfl := Option.some.inj h
      exact .quiet (by simp [StoreOp.selects, StoreOp.clears?]) (by simp [StoreOp.upserts]) rfl rfl
    | _ => cases h
  | finalizing failure =>
    cases input with
    | scheduled =>
      simp only [resumeStage] at h
      split at h
      next =>
        obtain rfl := Option.some.inj h
        exact .quiet (by simp) (by simp) rfl rfl
      next =>
        obtain rfl := Option.some.inj h
        exact .quiet (by simp [StoreOp.selects, StoreOp.clears?])
          (by simp [StoreOp.upserts]) rfl rfl
    | _ => cases h
  | failingRefresh failure =>
    cases input with
    | scheduled =>
      obtain rfl := Option.some.inj h
      unfold resumeFailingRefresh
      dsimp only
      split
      next => exact settleFailure_move rfl (.inl rfl) rfl
      next => exact settleFailure_move rfl (.inl rfl) rfl
    | _ => cases h
  | readingAccount =>
    cases input with
    | scheduled =>
      obtain rfl := Option.some.inj h
      dsimp only
      split <;> exact hquiet rfl rfl
    | _ => cases h
  | missingToken =>
    cases input with
    | scheduled =>
      obtain rfl := Option.some.inj h
      exact .settle rfl (.invalidated rfl) rfl
    | _ => cases h
  | missingRecord | succeeded | settling =>
    cases input with
    | scheduled =>
      obtain rfl := Option.some.inj h
      exact .settle rfl (.one (by first | rfl | (cases ‹AccountSettlement› <;> rfl))) rfl
    | _ => cases h
  | executing account =>
    cases input with
    | executeResult result =>
      cases result with
      | error error =>
        obtain rfl := Option.some.inj h
        exact hquiet rfl rfl
      | ok decodeError =>
        obtain rfl := Option.some.inj h
        unfold afterExecute
        dsimp only
        split <;> exact hquiet rfl rfl
    | _ => cases h
  | executeFailed error =>
    cases input with
    | scheduled =>
      obtain rfl := Option.some.inj h
      exact resumeExecuteFailed_move view run selection error
    | _ => cases h
  | undecoded details =>
    cases input with
    | scheduled =>
      obtain rfl := Option.some.inj h
      exact settleFailure_move rfl (.inl rfl) rfl
    | _ => cases h
  | holding =>
    cases input with
    | settle settlement =>
      obtain rfl := Option.some.inj h
      exact hquiet rfl rfl
    | _ => cases h

/-- Every resumption of a request is one of the moves. -/
theorem resumeRequest_move {config : Config} {pc : RequestPc} {input : Input}
    (h : resumeRequest config view run pc input = some next) :
    RequestMove view pc next.ops next.pc := by
  cases pc with
  | starting =>
    cases input with
    | scheduled =>
      obtain rfl := Option.some.inj h
      exact .quiet (by simp) (by simp) rfl rfl
    | _ => cases h
  | selecting =>
    cases input with
    | scheduled =>
      obtain rfl := Option.some.inj h
      exact resumeSelecting_move config view run
    | _ => cases h
  | selected selection stage => exact resumeStage_move h
  | finished | dropped => cases h

/-- A refresh begins with a selection. -/
theorem RequestMove.refreshes?_eq_none {pc pc' : RequestPc} {ops : List StoreOp}
    (h : RequestMove view pc ops pc') (hselecting : pc ≠ .selecting)
    (hnone : pc.refreshes? = none) : pc'.refreshes? = none := by
  cases h with
  | quiet _ _ _ hrefreshes => exact hrefreshes.trans hnone
  | select => exact absurd rfl hselecting
  | unselected => rfl
  | commit _ hrefreshes => simp [RequestPc.refreshes?, hrefreshes]
  | uncommitted => rfl
  | settle _ _ hsettled => exact RequestPc.refreshes?_of_occupies? hsettled
  | unprepared _ hsettled => exact RequestPc.refreshes?_of_occupies? hsettled

theorem StoreOp.neutral_of_settles? {op : StoreOp} {id : String} (h : op.settles? = some id) :
    op.commits? = none ∧ op.upserts = [] := by
  cases op <;> first | exact ⟨rfl, rfl⟩ | cases h

/-- A request commits a refresh or leaves every token alone. -/
theorem RequestMove.ops_cases {view : View} {pc pc' : RequestPc} {ops : List StoreOp}
    (h : RequestMove view pc ops pc') :
    (∃ id refreshed, ops = [.refreshSuccess id refreshed]) ∨
      ∀ op ∈ ops, op.commits? = none ∧ op.upserts = [] := by
  cases h with
  | quiet hops hupserts _ _ =>
    refine .inr fun op hop => ⟨?_, hupserts op hop⟩
    cases hcommits : op.commits? with
    | none => rfl
    | some id => simpa [op.clears?_of_commits? hcommits] using (hops op hop).2
  | select | unselected => exact .inr (by simp [StoreOp.commits?, StoreOp.upserts])
  | commit => exact .inl ⟨_, _, rfl⟩
  | uncommitted | unprepared => exact .inr (by simp)
  | settle _ hops _ =>
    cases hops with
    | one hop => exact .inr (by simpa using StoreOp.neutral_of_settles? hop)
    | invalidated hop =>
      exact .inr
        (by simpa [StoreOp.commits?, StoreOp.upserts] using StoreOp.neutral_of_settles? hop)

/-- An account call performs nothing before its last step, and its plan there. -/
theorem resumeCall_applies {config : Config} {view : View} {accountCall : AccountCall}
    {pc : AccountCallPc} {input : Input} {next : AccountCallResumption}
    (h : resumeCall config view accountCall pc input = some next) :
    next.ops = [] ∨ ∃ plan, pc = .applying plan ∧ next.ops = [plan.op] := by
  unfold resumeCall at h
  split at h
  next =>
    simp only [Option.ite_none_right_eq_some, Option.some.injEq] at h
    obtain ⟨-, rfl⟩ := h
    unfold prepareCall
    split <;> (try split) <;> (try split) <;> exact .inl rfl
  next => obtain rfl := Option.some.inj h; exact .inl rfl
  next => obtain rfl := Option.some.inj h; exact .inl rfl
  next =>
    obtain rfl := Option.some.inj h
    split <;> exact .inl rfl
  next =>
    obtain ⟨result, -, rfl⟩ := Option.map_eq_some_iff.mp h
    split <;> exact .inl rfl
  next plan =>
    obtain rfl := Option.some.inj h
    exact .inr ⟨plan, rfl, rfl⟩
  next => cases h

end Codaze.Failover
