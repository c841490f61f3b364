import Codaze.Failover.SingleFlight

/-!
# Rotated refresh tokens

A ledger beside the gateway numbers the replies to refresh requests, and owes each rotated
token to its account until the account is detached or gone. A token is paid once the
account holds it or a token of a later reply.
-/
namespace Codaze.Failover
open Foundation Accounts

/-- A reply that a request was given, and the refresh token in it. -/
structure ReplyEntry where
  pid : ℕ
  accountId : String
  token : Option String
  deriving DecidableEq, Repr

/-- The replies in the order they came, known by their index. -/
structure Ledger where
  replies : List ReplyEntry
  /-- The last reply of a process. -/
  lastReply : ℕ → ℕ
  /-- The replies whose token is owed to an account attached ever since. -/
  owed : List ℕ
  /-- The reply whose token an attached account was last given. -/
  assigned : String → Option ℕ

def Ledger.empty : Ledger where
  replies := []
  lastReply := fun _ => 0
  owed := []
  assigned := fun _ => none

/-- The account is in the store and not detached. -/
def isAttached (store : AccountStore) (id : String) : Bool :=
  (store.record? id).any fun record => !record.detached

/-- The selection and the answer a request has not committed yet. -/
def RequestPc.answer? : RequestPc → Option (AccountSelection × RefreshedAccount)
  | .selected selection (.answered (.ok refreshed))
  | .selected selection (.committing refreshed) => some (selection, refreshed)
  | _ => none

def Process.answer? : Process → Option (AccountSelection × RefreshedAccount)
  | request _ pc => pc.answer?
  | call _ _ => none

/-- The answer a process has not committed yet, by number. -/
def answer? (processes : List Process) (pid : ℕ) : Option (AccountSelection × RefreshedAccount) :=
  processes[pid]?.bind Process.answer?

theorem answer?_set {processes : List Process} {pid : ℕ} {old : Process}
    (hold : processes[pid]? = some old) (new : Process) (pid' : ℕ) :
    answer? (processes.set pid new) pid' =
      if pid' = pid then new.answer? else answer? processes pid' := by
  unfold answer?
  split
  next hpid => rw [hpid, getElem?_set_eq hold]; rfl
  next hpid => rw [getElem?_set_of_ne hpid]

namespace Ledger

/-- What is owed to accounts that are no longer attached is struck. -/
def strike (ledger : Ledger) (store : AccountStore) : Ledger :=
  { ledger with
    owed := ledger.owed.filter fun number =>
      ledger.replies[number]?.any fun entry => isAttached store entry.accountId
    assigned := fun id => if isAttached store id then ledger.assigned id else none }

/-- A reply reaches the process that waits for it. -/
def reply (ledger : Ledger) (pid : ℕ) (selection : AccountSelection) (reply : RefreshReply) :
    Ledger :=
  { ledger with
    replies := ledger.replies ++ [⟨pid, selection.accountId, reply.rotated?⟩]
    lastReply := fun pid' => if pid' = pid then ledger.replies.length else ledger.lastReply pid'
    owed := if reply.rotated?.isSome then ledger.owed ++ [ledger.replies.length]
      else ledger.owed }

/-- A process commits its answer. -/
def commit (ledger : Ledger) (pid : ℕ) : StoreOp → Ledger
  | .refreshSuccess id refreshed =>
    { ledger with assigned := fun id' =>
        if id' = id ∧ refreshed.refreshToken.isSome then some (ledger.lastReply pid)
        else ledger.assigned id' }
  | _ => ledger

/-- What the ledger sees of an event, before the strike. -/
def observe (config : Config) (gateway : Gateway) (ledger : Ledger) : Event → Ledger
  | .resume pid input =>
    match gateway.processes[pid]?.bind Process.awaitsReply?, input with
    | some selection, .refreshReply reply => ledger.reply pid selection reply
    | _, _ => (Gateway.performed config gateway pid input).foldl
      (fun ledger op => ledger.commit pid op) ledger
  | _ => ledger

variable {ledger : Ledger} {pid : ℕ} {selection : AccountSelection} {reply' : RefreshReply}

theorem reply_last : (ledger.reply pid selection reply').replies[ledger.replies.length]? =
    some ⟨pid, selection.accountId, reply'.rotated?⟩ := by
  simp [reply]

theorem reply_earlier {number : ℕ} {entry : ReplyEntry}
    (h : ledger.replies[number]? = some entry) :
    (ledger.reply pid selection reply').replies[number]? = some entry :=
  getElem?_append_of_some h _

theorem mem_reply_owed {number : ℕ} (h : number ∈ (ledger.reply pid selection reply').owed) :
    number ∈ ledger.owed ∨ number = ledger.replies.length ∧ reply'.rotated?.isSome = true := by
  simp only [reply] at h
  split at h
  next hrotated => simpa [hrotated] using h
  next => exact .inl h

end Ledger

/-- The gateway with its ledger. -/
def observedStep (config : Config) (state : Gateway × Ledger) (event : Event) :
    Option (Gateway × Ledger) :=
  (Gateway.step config state.1 event).map fun gateway =>
    (gateway, (state.2.observe config state.1 event).strike gateway.store)

/-- One resumption of a request, by what becomes of its answer. -/
inductive AnswerMove (config : Config) (view : View) :
    RequestPc → Input → List StoreOp → RequestPc → Prop
  | reply {selection} (reply : RefreshReply) :
      AnswerMove config view (.selected selection .refreshing) (.refreshReply reply) []
        (.selected selection (.answered (refreshAccessToken config.parsers reply)))
  | keep {pc input ops pc'} (hawaits : pc.awaitsReply? = none)
      (hops : ∀ op ∈ ops, op.commits? = none ∧ op.upserts = [])
      (hanswer : pc'.answer? = pc.answer?) :
      AnswerMove config view pc input ops pc'
  | commit {selection refreshed input pc'} (hanswer : pc'.answer? = none) :
      AnswerMove config view (.selected selection (.committing refreshed)) input
        [.refreshSuccess selection.accountId refreshed] pc'
  | vanished {selection refreshed input pc'}
      (h : view.store.record? selection.accountId = none) (hanswer : pc'.answer? = none) :
      AnswerMove config view (.selected selection (.committing refreshed)) input [] pc'

theorem RequestPc.refreshes?_of_answer? {pc : RequestPc} {selection : AccountSelection}
    {refreshed : RefreshedAccount} (h : pc.answer? = some (selection, refreshed)) :
    pc.refreshes? = some selection := by
  unfold RequestPc.answer? at h
  split at h
  next => cases h; rfl
  next => cases h; rfl
  next => cases h

theorem RequestPc.answer?_eq_none {pc : RequestPc} (h : pc.refreshes? = none) :
    pc.answer? = none := by
  cases hanswer : pc.answer? with
  | none => rfl
  | some answer => simp [RequestPc.refreshes?_of_answer? hanswer] at h

theorem Process.answer?_eq_none {process : Process} (h : process.refreshes? = none) :
    process.answer? = none := by
  cases process with
  | request run pc => exact RequestPc.answer?_eq_none h
  | call => rfl

/-- Between the reply and the commit a request only asks for the disk lock. -/
theorem resumeStage_answer? {config : Config} {view : View} {run : FailoverRun}
    {selection : AccountSelection} {stage : Stage} {input : Input} {next : Resumption}
    (h : resumeStage config view run selection stage input = some next)
    (hrefreshing : stage ≠ .refreshing) (hcommitting : ∀ refreshed, stage ≠ .committing refreshed) :
    next.pc.answer? = (RequestPc.selected selection stage).answer? := by
  have hmove := resumeStage_move h
  have hidle (hnone : (RequestPc.selected selection stage).refreshes? = none) :
      next.pc.answer? = none :=
    RequestPc.answer?_eq_none (hmove.refreshes?_eq_none (by simp) hnone)
  cases stage with
  | refreshing => exact absurd rfl hrefreshing
  | committing refreshed => exact absurd rfl (hcommitting refreshed)
  | answered result =>
    cases input with
    | scheduled =>
      obtain rfl := Option.some.inj h
      unfold resumeAnswered
      split
      next => rfl
      next => split <;> rfl
    | _ => cases h
  | preparing failure =>
    cases input with
    | scheduled =>
      simp only [resumeStage, Option.ite_none_right_eq_some, Option.some.injEq] at h
      obtain ⟨-, rfl⟩ := h
      unfold resumePreparing
      split <;> rfl
    | _ => cases h
  | failingRefresh failure =>
    cases input with
    | scheduled =>
      obtain rfl := Option.some.inj h
      unfold resumeFailingRefresh settleFailure
      dsimp only
      split <;> (dsimp only; split <;> rfl)
    | _ => cases h
  | _ => exact hidle rfl

/-- Only `finish_refresh_success` commits a refresh. -/
theorem RequestMove.committing_of_refreshSuccess {view : View} {pc pc' : RequestPc} {id : String}
    {refreshed : RefreshedAccount} (h : RequestMove view pc [.refreshSuccess id refreshed] pc') :
    ∃ selection, pc = .selected selection (.committing refreshed) := by
  cases h with
  | quiet hops => simp [StoreOp.clears?] at hops
  | commit => exact ⟨_, rfl⟩
  | settle _ hops =>
    cases hops with
    | one hop => cases hop

theorem resumeRequest_answer {config : Config} {view : View} {run : FailoverRun} {pc : RequestPc}
    {input : Input} {next : Resumption}
    (h : resumeRequest config view run pc input = some next) :
    AnswerMove config view pc input next.ops next.pc := by
  have hmove := resumeRequest_move h
  cases pc with
  | starting =>
    cases input with
    | scheduled => obtain rfl := Option.some.inj h; exact .keep rfl (by simp) rfl
    | _ => cases h
  | selecting =>
    obtain rfl : resumeSelecting config view run = next := by
      cases input <;> first | exact Option.some.inj h | cases h
    unfold resumeSelecting
    split
    next selection _ _ =>
      refine .keep rfl (by simp [StoreOp.commits?, StoreOp.upserts]) ?_
      dsimp only
      split <;> rfl
    next => exact .keep rfl (by simp [StoreOp.commits?, StoreOp.upserts]) rfl
  | selected selection stage =>
    by_cases hrefreshing : stage = .refreshing
    · subst hrefreshing
      cases input with
      | refreshReply reply => obtain rfl := Option.some.inj h; exact .reply reply
      | _ => cases h
    by_cases hcommitting : ∃ refreshed, stage = .committing refreshed
    · obtain ⟨refreshed, rfl⟩ := hcommitting
      cases input with
      | scheduled =>
        simp only [resumeRequest, resumeStage, Option.ite_none_right_eq_some,
          Option.some.injEq] at h
        obtain ⟨-, rfl⟩ := h
        unfold resumeCommitting
        split
        next hnone =>
          exact .vanished (by simpa [AccountStore.finishRefreshSuccessWithoutPersist] using hnone)
            rfl
        next => exact .commit rfl
        next => exact .commit rfl
      | _ => cases h
    · refine .keep ?_ ?_ (resumeStage_answer? h hrefreshing (by simpa using hcommitting))
      · cases stage <;> first | rfl | exact absurd rfl hrefreshing
      · rcases hmove.ops_cases with ⟨id, refreshed, hops⟩ | hneutral
        · have hstage := RequestMove.committing_of_refreshSuccess (hops ▸ hmove)
          obtain ⟨_, hstage⟩ := hstage
          cases hstage
          exact absurd ⟨_, rfl⟩ hcommitting
        · exact hneutral
  | finished | dropped => cases h

/-- No account's token changes. -/
def KeepsTokens (store store' : AccountStore) : Prop :=
  ∀ id record', store'.record? id = some record' →
    ∀ record, store.record? id = some record → record'.refreshToken = record.refreshToken

theorem KeepsTokens.refl (store : AccountStore) : KeepsTokens store store := by
  intro id record' hrecord' record hrecord
  rw [Option.some.inj (hrecord'.symm.trans hrecord)]

theorem keepsTokens_apply {store : AccountStore} {now : Time} {op : StoreOp}
    (hop : op.commits? = none) : KeepsTokens store (store.apply now op) := by
  intro id record' hrecord' record hrecord
  exact AccountStore.refreshToken_apply hrecord hrecord' (by simp [hop])

/-- Operations that commit and load nothing keep the tokens. -/
theorem keepsTokens_applyOps {now : Time} {ops : List StoreOp} {store : AccountStore}
    (hops : ∀ op ∈ ops, op.commits? = none ∧ op.upserts = []) :
    KeepsTokens store (Gateway.applyOps store now ops) := by
  -- no account is loaded, so each later record has an earlier one
  have horigin : ∀ id record', (Gateway.applyOps store now ops).record? id = some record' →
      ∃ record, store.record? id = some record ∧ record'.refreshToken = record.refreshToken := by
    induction ops generalizing store with
    | nil => exact fun id record' h => ⟨record', h, rfl⟩
    | cons op ops ih =>
      intro id record' hrecord'
      obtain ⟨hcommits, hupserts⟩ := hops op List.mem_cons_self
      obtain ⟨middle, hmiddle, htoken⟩ :=
        ih (fun op' hop' => hops op' (List.mem_cons_of_mem _ hop')) id record' hrecord'
      rcases AccountStore.refreshToken_origin hmiddle (by simp [hcommits]) with
        ⟨record, hrecord, hsame⟩ | ⟨-, upsert, hmem, -⟩
      · exact ⟨record, hrecord, htoken.trans hsame⟩
      · simp [hupserts] at hmem
  intro id record' hrecord' record hrecord
  obtain ⟨old, hold, htoken⟩ := horigin id record' hrecord'
  rw [htoken, Option.some.inj (hrecord.symm.trans hold)]

/-- The account has the token of the reply that the ledger says, and every token that is
owed is still on its way or paid. -/
structure TokensKept (attached : String → Prop) (store : AccountStore) (processes : List Process)
    (ledger : Ledger) : Prop where
  answered : ∀ pid selection refreshed, answer? processes pid = some (selection, refreshed) →
    ledger.replies[ledger.lastReply pid]? =
      some ⟨pid, selection.accountId, refreshed.refreshToken⟩
  recorded : ∀ number ∈ ledger.owed, ∃ entry, ledger.replies[number]? = some entry ∧
    entry.token.isSome = true
  assigned : ∀ id number, ledger.assigned id = some number → attached id →
    ∃ entry record, ledger.replies[number]? = some entry ∧ entry.accountId = id ∧
      store.record? id = some record ∧ entry.token = some record.refreshToken
  accounted : ∀ number ∈ ledger.owed, ∀ entry, ledger.replies[number]? = some entry →
    attached entry.accountId →
    (answer? processes entry.pid).isSome = true ∧ ledger.lastReply entry.pid = number ∨
      ∃ later, ledger.assigned entry.accountId = some later ∧ number ≤ later

namespace TokensKept

variable {attached : String → Prop} {store store' : AccountStore} {processes : List Process}
  {ledger : Ledger}

/-- After the strike only accounts that are attached are left. -/
theorem strike (h : TokensKept (fun id => isAttached store id = true) store processes ledger) :
    TokensKept (fun _ => True) store processes (ledger.strike store) where
  answered := h.answered
  recorded number hnumber := h.recorded number (List.mem_filter.mp hnumber).1
  assigned id number hassigned _ := by
    simp only [Ledger.strike, Option.ite_none_right_eq_some] at hassigned
    exact h.assigned id number hassigned.2 hassigned.1
  accounted number hnumber entry hentry _ := by
    obtain ⟨howed, hany⟩ := List.mem_filter.mp hnumber
    have hattached : isAttached store entry.accountId = true := by
      have hreplies : ledger.replies[number]? = some entry := hentry
      simpa [hreplies] using hany
    rcases h.accounted number howed entry hentry hattached with hwaits | ⟨later, hlater, hle⟩
    · exact .inl hwaits
    · exact .inr ⟨later, by simp only [Ledger.strike, hattached, if_true]; exact hlater, hle⟩

theorem exists_record_of_attached {store : AccountStore} {id : String}
    (h : isAttached store id = true) : ∃ record, store.record? id = some record := by
  obtain ⟨record, hrecord, -⟩ := (Option.any_eq_true _ _).mp h
  exact ⟨record, hrecord⟩

/-- A step that keeps the tokens and the answers on their way. -/
theorem keep {processes' : List Process} (h : TokensKept (fun _ => True) store processes ledger)
    (htokens : KeepsTokens store store')
    (hanswers : ∀ pid, answer? processes' pid = answer? processes pid) :
    TokensKept (fun id => isAttached store' id = true) store' processes' ledger where
  answered pid selection refreshed hanswer :=
    h.answered pid selection refreshed (hanswers pid ▸ hanswer)
  recorded := h.recorded
  assigned id number hassigned hattached := by
    obtain ⟨entry, record, hentry, hid, hrecord, htoken⟩ := h.assigned id number hassigned trivial
    obtain ⟨record', hrecord'⟩ := exists_record_of_attached hattached
    have hsame := htokens id record' hrecord' record hrecord
    exact ⟨entry, record', hentry, hid, hrecord', by rw [htoken, hsame]⟩
  accounted number hnumber entry hentry _ := by
    rw [hanswers]
    exact h.accounted number hnumber entry hentry trivial

/-- An answer on its way is that of the process's last reply. -/
theorem entry_of_answer {pid : ℕ} {selection : AccountSelection} {refreshed : RefreshedAccount}
    {number : ℕ} {entry : ReplyEntry} (h : TokensKept attached store processes ledger)
    (hanswer : answer? processes pid = some (selection, refreshed))
    (hentry : ledger.replies[number]? = some entry) (hpid : entry.pid = pid)
    (hlast : ledger.lastReply entry.pid = number) :
    entry.accountId = selection.accountId ∧ entry.token = refreshed.refreshToken := by
  have hanswered := h.answered pid selection refreshed hanswer
  rw [← hpid, hlast, hentry] at hanswered
  rw [Option.some.inj hanswered]
  exact ⟨rfl, rfl⟩

theorem weaken (h : TokensKept (fun _ => True) store processes ledger) :
    TokensKept attached store processes ledger where
  answered := h.answered
  recorded := h.recorded
  assigned id number hassigned _ := h.assigned id number hassigned trivial
  accounted number hnumber entry hentry _ := h.accounted number hnumber entry hentry trivial

/-- The reply of a process that has no answer yet. -/
theorem reply {config : Config} {pid : ℕ} {run run' : FailoverRun} {selection : AccountSelection}
    {reply : RefreshReply} (h : TokensKept (fun _ => True) store processes ledger)
    (hold : processes[pid]? = some (.request run (.selected selection .refreshing)))
    (hreadable : reply.rotated?.isSome = true → reply.readable config.parsers = true) :
    TokensKept (fun _ => True) store
      (processes.set pid (.request run' (.selected selection
        (.answered (refreshAccessToken config.parsers reply)))))
      (ledger.reply pid selection reply) where
  answered pid' selection' refreshed hanswer := by
    rw [answer?_set hold] at hanswer
    split at hanswer
    next hpid =>
      subst hpid
      cases hresult : refreshAccessToken config.parsers reply with
      | error failure => simp [Process.answer?, RequestPc.answer?, hresult] at hanswer
      | ok refreshed' =>
        simp only [Process.answer?, RequestPc.answer?, hresult, Option.some.injEq,
          Prod.mk.injEq] at hanswer
        obtain ⟨rfl, rfl⟩ := hanswer
        simp [Ledger.reply, refreshToken_of_ok hresult]
    next hpid =>
      have hentry := h.answered pid' selection' refreshed hanswer
      simp only [Ledger.reply, if_neg hpid]
      exact getElem?_append_of_some hentry _
  recorded number hnumber := by
    rcases Ledger.mem_reply_owed hnumber with howed | ⟨rfl, hrotated⟩
    · obtain ⟨entry, hentry, htoken⟩ := h.recorded number howed
      exact ⟨entry, Ledger.reply_earlier hentry, htoken⟩
    · exact ⟨_, Ledger.reply_last, hrotated⟩
  assigned id number hassigned _ := by
    obtain ⟨entry, record, hentry, hid, hrecord, htoken⟩ := h.assigned id number hassigned trivial
    exact ⟨entry, record, Ledger.reply_earlier hentry, hid, hrecord, htoken⟩
  accounted number hnumber entry hentry _ := by
    rw [answer?_set hold]
    rcases Ledger.mem_reply_owed hnumber with howed | ⟨rfl, hrotated⟩
    · obtain ⟨entry', hentry', -⟩ := h.recorded number howed
      obtain rfl : entry' = entry :=
        Option.some.inj ((Ledger.reply_earlier hentry').symm.trans hentry)
      rcases h.accounted number howed entry' hentry' trivial with ⟨hwaits, hlast⟩ | hpaid
      · -- the process has no answer while it waits for this reply
        have hpid : entry'.pid ≠ pid := by
          intro hpid
          simp [hpid, answer?, hold, Process.answer?, RequestPc.answer?] at hwaits
        left
        simp only [Ledger.reply, if_neg hpid]
        exact ⟨hwaits, hlast⟩
      · exact .inr hpaid
    · obtain rfl := Option.some.inj (Ledger.reply_last.symm.trans hentry)
      obtain ⟨refreshed, hresult⟩ := ok_of_readable (hreadable hrotated)
      simp [Ledger.reply, Process.answer?, RequestPc.answer?, hresult]

/-- The commit of an answer, after those of every earlier reply to the account. -/
theorem commit {pid : ℕ} {run : FailoverRun} {selection : AccountSelection}
    {refreshed : RefreshedAccount} {now : Time} {new : Process}
    (h : TokensKept (fun _ => True) store processes ledger)
    (hold : processes[pid]? = some (.request run (.selected selection (.committing refreshed))))
    (hnew : new.answer? = none)
    (horder : refreshed.refreshToken.isSome = true →
      ∀ number, ledger.assigned selection.accountId = some number → number < ledger.lastReply pid) :
    let op := .refreshSuccess selection.accountId refreshed
    TokensKept (fun id => isAttached (store.apply now op) id = true) (store.apply now op)
      (processes.set pid new) (ledger.commit pid op) := by
  intro op
  have hanswer : answer? processes pid = some (selection, refreshed) := by
    simp [answer?, hold, Process.answer?, RequestPc.answer?]
  have hentry := h.answered pid selection refreshed hanswer
  refine ⟨fun pid' selection' refreshed' hanswer' => ?_, h.recorded,
    fun id number hassigned hattached => ?_, fun number hnumber entry hnumbered _ => ?_⟩
  · rw [answer?_set hold, hnew] at hanswer'
    split at hanswer'
    next => cases hanswer'
    next => exact h.answered pid' selection' refreshed' hanswer'
  · obtain ⟨record, hrecord⟩ := exists_record_of_attached hattached
    obtain ⟨old, hstored, rfl⟩ := AccountStore.of_record?_refreshSuccess hrecord
    have htoken := (refreshSuccessRecord_frame now refreshed old).2.1
    simp only [op, Ledger.commit] at hassigned
    split at hassigned
    next hnewToken =>
      obtain ⟨rfl, hrotated⟩ := hnewToken
      obtain rfl := Option.some.inj hassigned
      refine ⟨_, _, hentry, rfl, hrecord, ?_⟩
      obtain ⟨token, htoken'⟩ := Option.isSome_iff_exists.mp hrotated
      rw [if_pos rfl, htoken, htoken']
      rfl
    next hkept =>
      obtain ⟨entry, record, hnumbered, hid, hrecord', htoken'⟩ :=
        h.assigned id number hassigned trivial
      obtain rfl := Option.some.inj (hstored.symm.trans hrecord')
      refine ⟨entry, _, hnumbered, hid, hrecord, ?_⟩
      split
      next hid' =>
        have hnone : refreshed.refreshToken = none := by simpa [hid'] using hkept
        rw [htoken', htoken, hnone]
        rfl
      next => exact htoken'
  · obtain ⟨entry', hnumbered', hrotated⟩ := h.recorded number hnumber
    obtain rfl := Option.some.inj (hnumbered'.symm.trans hnumbered)
    rw [answer?_set hold]
    rcases h.accounted number hnumber entry' hnumbered trivial with
      ⟨hwaits, hlast⟩ | ⟨later, hlater, hle⟩
    · by_cases hpid : entry'.pid = pid
      · obtain ⟨hid, htoken⟩ := h.entry_of_answer hanswer hnumbered hpid hlast
        right
        refine ⟨number, ?_, Nat.le_refl number⟩
        simp only [op, Ledger.commit]
        rw [if_pos ⟨hid, htoken ▸ hrotated⟩, ← hpid, hlast]
      · rw [if_neg hpid]
        exact .inl ⟨hwaits, hlast⟩
    · right
      simp only [op, Ledger.commit]
      split
      next hnewToken =>
        obtain ⟨hid, hrotated'⟩ := hnewToken
        have hearlier := horder hrotated' later (hid ▸ hlater)
        exact ⟨_, rfl, by omega⟩
      next => exact ⟨later, hlater, hle⟩

/-- The account of an answer vanished. -/
theorem vanished {pid : ℕ} {run : FailoverRun} {selection : AccountSelection}
    {refreshed : RefreshedAccount} {new : Process}
    (h : TokensKept (fun _ => True) store processes ledger)
    (hold : processes[pid]? = some (.request run (.selected selection (.committing refreshed))))
    (hnew : new.answer? = none) (hnone : store.record? selection.accountId = none) :
    TokensKept (fun id => isAttached store id = true) store (processes.set pid new) ledger where
  answered pid' selection' refreshed' hanswer := by
    rw [answer?_set hold, hnew] at hanswer
    split at hanswer
    next => cases hanswer
    next => exact h.answered pid' selection' refreshed' hanswer
  recorded := h.recorded
  assigned := h.weaken.assigned
  accounted number hnumber entry hentry hattached := by
    rcases h.accounted number hnumber entry hentry trivial with ⟨hwaits, hlast⟩ | hpaid
    · have hpid : entry.pid ≠ pid := by
        intro hpid
        have hanswer : answer? processes pid = some (selection, refreshed) := by
          simp [answer?, hold, Process.answer?, RequestPc.answer?]
        obtain ⟨hid, -⟩ := h.entry_of_answer hanswer hentry hpid hlast
        simp [isAttached, hid, hnone] at hattached
      rw [answer?_set hold, if_neg hpid]
      exact .inl ⟨hwaits, hlast⟩
    · exact .inr hpaid

end TokensKept

namespace Gateway

variable {config : Config} {gateway gateway' : Gateway} {event : Event}

/-- The reply an input hands over. -/
def refreshReply? : Input → Option RefreshReply
  | .refreshReply reply => some reply
  | _ => none

/-- The refresh an operation commits, if it rotates the token. -/
def rotates? : StoreOp → Option String
  | .refreshSuccess id refreshed => if refreshed.refreshToken.isSome then some id else none
  | _ => none

/-- A reply with a new refresh token is readable, an answer is not dropped on its way to
the store, and the answers for an account are committed in the order of their replies. -/
def handlesRotation (config : Config) (state : Gateway × Ledger) : Event → Prop
  | .resume pid input =>
    (∀ reply ∈ refreshReply? input, reply.rotated?.isSome = true →
      (state.1.processes[pid]?.bind Process.awaitsReply?).isSome = true →
        reply.readable config.parsers = true) ∧
    ∀ op ∈ performed config state.1 pid input, ∀ id ∈ rotates? op,
      ∀ number ∈ state.2.assigned id, number < state.2.lastReply pid
  | .drop pid => answer? state.1.processes pid = none
  | _ => True

theorem observe_of_not_resume {ledger : Ledger} (h : ∀ pid input, event ≠ .resume pid input) :
    ledger.observe config gateway event = ledger := by
  cases event with
  | resume pid input => exact absurd rfl (h pid input)
  | _ => rfl

/-- A process that waits for no reply is observed by what it commits. -/
theorem observe_resume {ledger : Ledger} {pid : ℕ} {input : Input} {process : Process}
    (hprocess : gateway.processes[pid]? = some process) (hawaits : process.awaitsReply? = none) :
    ledger.observe config gateway (.resume pid input) =
      (performed config gateway pid input).foldl
        (fun ledger op => ledger.commit pid op) ledger := by
  simp only [Ledger.observe, hprocess, Option.bind_some, hawaits]

theorem foldl_commit_of_neutral {ops : List StoreOp} (hops : ∀ op ∈ ops, op.commits? = none)
    (ledger : Ledger) (pid : ℕ) :
    ops.foldl (fun ledger op => ledger.commit pid op) ledger = ledger := by
  induction ops generalizing ledger with
  | nil => rfl
  | cons op ops ih =>
    have hop : ledger.commit pid op = ledger := by
      cases op with
      | refreshSuccess => cases hops _ List.mem_cons_self
      | _ => rfl
    rw [List.foldl_cons, hop]
    exact ih (fun op' hop' => hops op' (List.mem_cons_of_mem _ hop')) ledger

abbrev TokensKept (state : Gateway × Ledger) : Prop :=
  Failover.TokensKept (fun _ => True) state.1.store state.1.processes state.2

theorem tokensKept_request {state : Gateway × Ledger} {pid : ℕ} {input : Input}
    {run : FailoverRun} {pc : RequestPc} {next : Resumption} (h : TokensKept state)
    (hguard : handlesRotation config state (.resume pid input))
    (hprocess : state.1.processes[pid]? = some (.request run pc))
    (hnext : resumeRequest config (state.1.view pid) run pc input = some next) :
    let gateway' := state.1.perform pid (.request next.run next.pc) next.ops next.disk
    Failover.TokensKept (fun id => isAttached gateway'.store id = true) gateway'.store
      gateway'.processes (state.2.observe config state.1 (.resume pid input)) := by
  intro gateway'
  obtain ⟨hreadable, horder⟩ := hguard
  have hperformed : performed config state.1 pid input = next.ops := by
    simp [performed, hprocess, hnext]
  have hmove := resumeRequest_answer hnext
  have hstore : gateway'.store = applyOps state.1.store state.1.now next.ops := rfl
  have hprocesses : gateway'.processes = state.1.processes.set pid (.request next.run next.pc) :=
    rfl
  rw [hstore, hprocesses]
  generalize next.ops = ops at *
  generalize next.pc = pc' at *
  cases hmove with
  | @reply selection reply =>
    have hawaits : state.1.processes[pid]?.bind Process.awaitsReply? = some selection := by
      simp [hprocess, Process.awaitsReply?, RequestPc.awaitsReply?]
    simp only [Ledger.observe, hawaits]
    exact (h.reply hprocess fun hrotated =>
      hreadable reply rfl hrotated (by simp [hawaits])).weaken
  | keep hawaits hops hanswer =>
    rw [observe_resume hprocess hawaits, hperformed,
      foldl_commit_of_neutral fun op hop => (hops op hop).1]
    refine h.keep (keepsTokens_applyOps hops) fun pid' => ?_
    rw [answer?_set hprocess]
    split
    next hpid =>
      subst hpid
      simpa [answer?, hprocess, Process.answer?] using hanswer
    next => rfl
  | @commit selection refreshed _ _ hanswer =>
    rw [observe_resume hprocess rfl, hperformed]
    refine h.commit hprocess hanswer fun hrotated number hassigned => ?_
    exact horder (.refreshSuccess selection.accountId refreshed) (by simp [hperformed])
      selection.accountId (by simp [rotates?, hrotated]) number hassigned
  | vanished hnone hanswer =>
    rw [observe_resume hprocess rfl, hperformed]
    exact h.vanished hprocess hanswer hnone

/-- Every step keeps the rotated tokens, up to the strike. -/
theorem tokensKept_step {state state' : Gateway × Ledger} (h : TokensKept state)
    (hguard : handlesRotation config state event)
    (hstep : observedStep config state event = some state') : TokensKept state' := by
  obtain ⟨gateway', hgateway, rfl⟩ := Option.map_eq_some_iff.mp hstep
  refine Failover.TokensKept.strike ?_
  by_cases hsilent : silent event = true
  · obtain ⟨hstore, hprocesses⟩ := step_silent hsilent hgateway
    rw [observe_of_not_resume (by rintro pid input rfl; cases hsilent), hstore, hprocesses]
    exact h.weaken
  cases event with
  | spawnRequest | spawnCall =>
    obtain rfl := Option.some.inj hgateway
    exact h.keep (.refl _) fun pid => bind_getElem?_append_singleton rfl _ pid
  | resume pid input =>
    obtain ⟨process, hprocess, hresume⟩ := Option.bind_eq_some_iff.mp hgateway
    cases process with
    | request run pc =>
      obtain ⟨next, hnext, rfl⟩ := Option.map_eq_some_iff.mp hresume
      exact tokensKept_request h hguard hprocess hnext
    | call accountCall pc =>
      obtain ⟨next, hnext, rfl⟩ := Option.map_eq_some_iff.mp hresume
      have hperformed : performed config state.1 pid input = next.ops := by
        simp [performed, hprocess, hnext]
      have hkept (ops : List StoreOp)
          (hops : ops = [] ∨ ∃ plan : CallPlan, ops = [plan.op]) :
          KeepsTokens state.1.store (applyOps state.1.store state.1.now ops) ∧
            ∀ op ∈ ops, op.commits? = none := by
        rcases hops with rfl | ⟨plan, rfl⟩
        · exact ⟨.refl _, by simp⟩
        · have hcommits : plan.op.commits? = none := by cases plan <;> rfl
          exact ⟨keepsTokens_apply hcommits, by simpa using hcommits⟩
      have hops : next.ops = [] ∨ ∃ plan : CallPlan, next.ops = [plan.op] := by
        rcases resumeCall_ops hnext with hnil | ⟨plan, -, hplan⟩
        · exact .inl hnil
        · exact .inr ⟨plan, hplan⟩
      obtain ⟨htokens, hcommits⟩ := hkept next.ops hops
      rw [observe_resume hprocess rfl, hperformed, foldl_commit_of_neutral hcommits]
      refine h.keep htokens fun pid' => ?_
      rw [perform, answer?_set hprocess]
      split
      next hpid => subst hpid; simp [answer?, hprocess, Process.answer?]
      next => rfl
  | drop pid =>
    obtain ⟨new, hdrop, rfl⟩ := Option.map_eq_some_iff.mp hgateway
    obtain ⟨old, hold, hafter⟩ := Option.bind_eq_some_iff.mp hdrop
    have hidle : new.answer? = none := Process.answer?_eq_none (afterDrop_idle hafter).1
    refine h.keep (by rw [leaveDisk_store]; exact .refl _) fun pid' => ?_
    rw [answer?_set hold, hidle]
    split
    next hpid => subst hpid; exact hguard.symm
    next => rfl
  | background op =>
    simp only [step, Option.ite_none_right_eq_some, Option.some.injEq] at hgateway
    obtain ⟨hbackground, rfl⟩ := hgateway
    refine h.keep (keepsTokens_apply ?_) fun pid => rfl
    cases op <;> first | rfl | cases hbackground
  | _ => exact absurd rfl hsilent

theorem tokensKept_boot (dir : AccountsDir) (now : Time) (policy : RoutingPolicy) :
    TokensKept (boot dir now policy, Ledger.empty) where
  answered pid selection refreshed h := by simp [boot, answer?] at h
  recorded number h := by simp [Ledger.empty] at h
  assigned id number h := by cases h
  accounted number h := by simp [Ledger.empty] at h

/-- In a run in which every reply with a new refresh token is readable, no answer is dropped
on its way to the store and those for one account are committed in the order of their
replies, a rotated token is on its way to its account, or the account holds it or the token
of a later reply, as long as the account stays attached. -/
theorem rotated_token_kept {dir : AccountsDir} {now : Time} {policy : RoutingPolicy}
    {ledger : Ledger}
    (hrun : Run (observedStep config) (handlesRotation config)
      (boot dir now policy, Ledger.empty) (gateway, ledger)) :
    ∀ number ∈ ledger.owed, ∃ entry, ledger.replies[number]? = some entry ∧
      (((answer? gateway.processes entry.pid).isSome = true ∧
          ledger.lastReply entry.pid = number) ∨
        ∃ later reply record, number ≤ later ∧ ledger.replies[later]? = some reply ∧
          reply.accountId = entry.accountId ∧
          gateway.store.record? entry.accountId = some record ∧
          reply.token = some record.refreshToken) := by
  have hkept : TokensKept (gateway, ledger) :=
    hrun.invariant (fun _ _ _ h hguard hstep => tokensKept_step h hguard hstep)
      (tokensKept_boot dir now policy)
  intro number hnumber
  obtain ⟨entry, hentry, -⟩ := hkept.recorded number hnumber
  refine ⟨entry, hentry, ?_⟩
  rcases hkept.accounted number hnumber entry hentry trivial with hwaits | ⟨later, hlater, hle⟩
  · exact .inl hwaits
  · obtain ⟨reply, record, hreply, hid, hrecord, htoken⟩ :=
      hkept.assigned entry.accountId later hlater trivial
    exact .inr ⟨later, reply, record, hle, hreply, hid, hrecord, htoken⟩

instance (config : Config) (state : Gateway × Ledger) (event : Event) :
    Decidable (handlesRotation config state event) :=
  match event with
  | .resume pid input => inferInstanceAs (Decidable ((∀ reply ∈ refreshReply? input, _) ∧
      ∀ op ∈ performed config state.1 pid input, ∀ id ∈ rotates? op,
        ∀ number ∈ state.2.assigned id, _))
  | .drop pid => decidable_of_iff ((answer? state.1.processes pid).isNone = true)
      (by simp [handlesRotation])
  | .spawnRequest .. | .spawnCall _ | .grant | .runTask _ | .runOrphan ..
  | .clock _ | .setPolicy _ | .background _ | .relist _ => .isTrue trivial

/-- A reply rotates the token of the account, and the answer is committed. -/
def rotateAndCommit : List Event :=
  [.spawnRequest .holdUntilCaller ∅, .resume 0 .scheduled, .resume 0 .scheduled,
    .resume 0 (.refreshReply (.json (.object
      [("access_token", .string "at_1"), ("refresh_token", .string "rt_2")]))),
    .resume 0 .scheduled, .grant, .resume 0 .scheduled]

theorem rotated_token_kept_rotateAndCommit :
    let state := stateAfter (observedStep exampleConfig)
      (boot exampleDir 0 .fillFirst, Ledger.empty) rotateAndCommit
    0 ∈ state.2.owed ∧ ∀ number ∈ state.2.owed, ∃ entry, state.2.replies[number]? = some entry ∧
      (((answer? state.1.processes entry.pid).isSome = true ∧
          state.2.lastReply entry.pid = number) ∨
        ∃ later reply record, number ≤ later ∧ state.2.replies[later]? = some reply ∧
          reply.accountId = entry.accountId ∧
          state.1.store.record? entry.accountId = some record ∧
          reply.token = some record.refreshToken) := by
  intro state
  have hrun : Run (observedStep exampleConfig) (handlesRotation exampleConfig)
      (boot exampleDir 0 .fillFirst, Ledger.empty) state := .of_isSome (by decide +kernel)
  exact ⟨by decide +kernel, rotated_token_kept hrun⟩

/-- The reply has no access token: `finish_refresh_failure` settles it and the account keeps the
token that upstream has rotated away. No future is dropped. -/
theorem rotated_token_lost_without_access_token :
    ∃ gateway ledger, Run (observedStep exampleConfig) (fun _ event => isDrop event = false)
        (boot exampleDir 0 .fillFirst, Ledger.empty) (gateway, ledger) ∧
      0 ∈ ledger.owed ∧ ledger.replies = [⟨0, "a", some "rt_2"⟩] ∧
      refreshing? gateway.processes 0 = none ∧
      isAttached gateway.store "a" = true ∧
      (gateway.store.record? "a").map (·.refreshToken) = some "rt_1" := by
  let state := stateAfter (observedStep exampleConfig) (boot exampleDir 0 .fillFirst, Ledger.empty)
    [.spawnRequest .holdUntilCaller ∅, .resume 0 .scheduled, .resume 0 .scheduled,
      .resume 0 (.refreshReply (.json (.object [("refresh_token", .string "rt_2")]))),
      .resume 0 .scheduled, .resume 0 .scheduled]
  refine ⟨state.1, state.2, .of_isSome ?_, ?_, ?_, ?_, ?_, ?_⟩ <;> decide +kernel

end Gateway

end Codaze.Failover
