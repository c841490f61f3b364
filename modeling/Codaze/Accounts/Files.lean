import Codaze.Accounts.Disk
import Codaze.Foundation.FileNames
import Codaze.Foundation.JsonText
import Codaze.Foundation.Utf8

/-!
# Account files, byte by byte

The file operations below `AccountDiskOp`: a write goes to a temporary file that takes the
place of the account file at once, and a trashed file moves to a name that is free. Whatever
call is the last one made, the directory is as if some of the operations had been done whole
and the others not at all, and a scan sees nothing else.
-/
namespace Codaze.Accounts
open Foundation

/-- The text of an account file. -/
structure AccountFormat where
  encode : AccountFile → List Byte
  decode : List Byte → Option AccountFile
  /-- `serde_json` reads back what it printed. -/
  decode_encode : ∀ disk, decode (encode disk) = some disk

def AccountFormat.content (format : AccountFormat) (bytes : List Byte) : FileContent :=
  match format.decode bytes with
  | some disk => .account disk
  | none => .invalid

/-! ## A format -/

/-- A field of an account file, left out where there is none. -/
def printField (opening : List Char) (value : Option String) : List Char :=
  value.elim [] fun value => opening ++ quote value

def readField (opening text : List Char) : Option (Option String × List Char) :=
  match stripPrefix? opening text with
  | some ('"' :: rest) => (readEscaped rest).map fun read => (some (String.ofList read.1), read.2)
  | some _ => none
  | none => some (none, text)

theorem readField_printField {opening rest : List Char} {value : Option String}
    (hrest : value = none → ¬ opening <+: rest) :
    readField opening (printField opening value ++ rest) = some (value, rest) := by
  cases value with
  | none =>
    show readField opening rest = _
    rw [readField, stripPrefix?, if_neg (hrest rfl)]
  | some value =>
    obtain ⟨text, hquote, hread⟩ := readEscaped_quote value rest
    show readField opening (opening ++ quote value ++ rest) = _
    rw [List.append_assoc, hquote, readField, stripPrefix?, if_pos (List.prefix_append ..),
      List.drop_left]
    show (readEscaped text).map _ = _
    rw [hread, Option.map_some, String.ofList_toList]

def tokenOpening : List Char := "\x7b\n  \"refresh_token\": ".toList
def labelOpening : List Char := ",\n  \"label\": ".toList
def emailOpening : List Char := ",\n  \"email\": ".toList

/-- `serde_json::to_vec_pretty` of an account file. -/
def AccountFile.pretty (disk : AccountFile) : List Char :=
  printField tokenOpening (some disk.refreshToken) ++ (printField labelOpening disk.label ++
    (printField emailOpening disk.email ++ ['\n', '\x7d']))

/-- Reads the fields of an account file in their order. -/
def readAccountFile (text : List Char) : Option AccountFile :=
  (readField tokenOpening text).bind fun token =>
    (readField labelOpening token.2).bind fun label =>
      (readField emailOpening label.2).bind fun email =>
        token.1.map fun refreshToken => ⟨refreshToken, label.1, email.1⟩

theorem readAccountFile_pretty (disk : AccountFile) :
    readAccountFile disk.pretty = some disk := by
  have hemail : disk.email = none → ¬ emailOpening <+: ['\n', '\x7d'] := fun _ => by decide
  have hlabel : disk.label = none → ¬ labelOpening <+:
      printField emailOpening disk.email ++ ['\n', '\x7d'] := by
    rintro _ ⟨rest, hrest⟩
    cases hvalue : disk.email with
    | none =>
      rw [hvalue] at hrest
      have hfirst : some ',' = some '\n' := congrArg List.head? hrest
      cases hfirst
    | some email =>
      rw [hvalue] at hrest
      -- the names of the two fields begin with different letters
      have hletter : some 'l' = some 'e' := congrArg (fun text => text[5]?) hrest
      cases hletter
  have htoken : some disk.refreshToken = none → ¬ tokenOpening <+:
      printField labelOpening disk.label ++ (printField emailOpening disk.email ++
        ['\n', '\x7d']) := by
    rintro ⟨⟩
  rw [readAccountFile, AccountFile.pretty, readField_printField htoken, Option.bind_some,
    readField_printField hlabel, Option.bind_some, readField_printField hemail]
  rfl

/-- What is printed is read, and nothing else. -/
def AccountFormat.pretty : AccountFormat where
  encode disk := utf8Bytes (String.ofList disk.pretty)
  decode bytes := readAccountFile (fromUtf8Lossy bytes)
  decode_encode disk := by
    rw [fromUtf8Lossy_utf8Bytes, String.toList_ofList, readAccountFile_pretty]

/-! ## Directories of bytes -/

/-- The files of the accounts directory and of its trash directory, by name. -/
structure RawDir where
  files : HashMap String (List Byte)
  trash : HashMap String (List Byte)
  deriving DecidableEq

/-- A call that changes the accounts directory, or the trash directory in it. -/
inductive RawCall where
  | remove (name : String)
  | create (name : String)
  /-- Part of `write_all`. -/
  | append (name : String) (bytes : List Byte)
  | sync (name : String)
  | rename (source target : String)
  | moveToTrash (source target : String)
  | setPermissions (target : String)
  deriving DecidableEq, Repr

/-- What a call that succeeds does. -/
def RawDir.apply (raw : RawDir) : RawCall → RawDir
  | .remove name => { raw with files := raw.files.erase name }
  | .create name => { raw with files := raw.files.insert name [] }
  | .append name bytes => { raw with files := raw.files.modify name (· ++ bytes) }
  | .rename source target => match raw.files.lookup source with
    | some bytes => { raw with files := (raw.files.erase source).insert target bytes }
    | none => raw
  | .moveToTrash source target => match raw.files.lookup source with
    | some bytes => { files := raw.files.erase source, trash := raw.trash.insert target bytes }
    | none => raw
  | .sync _ | .setPermissions _ => raw

def RawDir.applyAll (raw : RawDir) (calls : List RawCall) : RawDir := calls.foldl RawDir.apply raw

theorem RawDir.applyAll_append (raw : RawDir) (calls calls' : List RawCall) :
    raw.applyAll (calls ++ calls') = (raw.applyAll calls).applyAll calls' := List.foldl_append ..

/-- The name of the file of an account. -/
def AccountPath.fileName (path : AccountPath) : String := path.stem ++ "." ++ "json"

/-- The name `temp_account_path` makes of a file name and the clock. -/
def tempAccountName (fileName : String) (stamp : ℕ) : String :=
  "." ++ fileName ++ "." ++ toString stamp ++ "." ++ "tmp"

/-- The candidates of `unique_trash_path`, by the attempt. -/
def trashCandidate (path : AccountPath) (timestamp : ℕ → ℕ) (attempt : ℕ) : String :=
  if attempt = 0 then path.fileName
  else path.stem ++ "-" ++ toString (timestamp attempt) ++ "-" ++ toString attempt ++ "." ++ "json"

/-- What an operation meets besides the directory. -/
structure Conditions where
  /-- The clock of `temp_account_path`. -/
  stamp : ℕ
  /-- How `write_all` cuts the bytes. -/
  cut : List Byte → List (List Byte)
  flatten_cut : ∀ bytes, (cut bytes).flatten = bytes
  /-- The clock of `unique_trash_path`, by the attempt. -/
  timestamp : ℕ → ℕ

namespace RawDir

/-- The loop of `unique_trash_path`; there are more candidates than files in the trash. -/
def uniqueTrashName (raw : RawDir) (path : AccountPath) (timestamp : ℕ → ℕ) : String :=
  (((List.range (raw.trash.keys.length + 1)).map (trashCandidate path timestamp)).find?
    fun candidate => (raw.trash.lookup candidate).isNone).getD path.fileName

/-- The calls of `write_account_file` before the last one. -/
def prepareCalls (format : AccountFormat) (conditions : Conditions) (raw : RawDir)
    (path : AccountPath) (disk : AccountFile) : List RawCall :=
  let temp := tempAccountName path.fileName conditions.stamp
  (if (raw.files.lookup temp).isSome then [.remove temp] else []) ++
    .create temp :: ((conditions.cut (format.encode disk)).map (.append temp) ++ [.sync temp])

/-- The calls of `execute_account_disk_op`, or of a file operation of `execute_disk_sync_fs`. -/
def calls (format : AccountFormat) (conditions : Conditions) (raw : RawDir) :
    AccountDiskOp → List RawCall
  | .write path disk => prepareCalls format conditions raw path disk ++
      [.rename (tempAccountName path.fileName conditions.stamp) path.fileName]
  | .remove path =>
    if (raw.files.lookup path.fileName).isSome then [.remove path.fileName] else []
  | .moveToTrash source =>
    if (raw.files.lookup source.fileName).isSome then
      let target := raw.uniqueTrashName source conditions.timestamp
      [.moveToTrash source.fileName target, .setPermissions target]
    else []

/-- Operations one after the other, stopped behind so many calls. -/
def executeUntil (format : AccountFormat) (raw : RawDir) :
    List (AccountDiskOp × Conditions) → ℕ → RawDir
  | [], _ => raw
  | (op, conditions) :: ops, budget =>
    let calls := raw.calls format conditions op
    if budget < calls.length then raw.applyAll (calls.take budget)
    else (raw.applyAll calls).executeUntil format ops (budget - calls.length)

/-- Operations one after the other, none of which fails. -/
def execute (format : AccountFormat) (raw : RawDir) (ops : List (AccountDiskOp × Conditions)) :
    RawDir := ops.foldl (fun raw op => raw.applyAll (raw.calls format op.2 op.1)) raw

/-- Batches of operations, each of which a call that fails, or the end of the process, may cut
short. -/
def executeBatches (format : AccountFormat) (raw : RawDir)
    (batches : List (List (AccountDiskOp × Conditions) × Option ℕ)) : RawDir :=
  batches.foldl (fun raw batch => match batch.2 with
    | some budget => raw.executeUntil format batch.1 budget
    | none => raw.execute format batch.1) raw

/-- `scan_accounts_dir`, on the files with the extension of an account file. -/
def scan (format : AccountFormat) (raw : RawDir) : DiskScanSnapshot :=
  let accounts := raw.files.entries.filter fun file => extension file.1 = some "json"
  let read (file : Σ _ : String, List Byte) :=
    FileContent.accountEntry ⟨fileStem file.1⟩ (format.content file.2)
  { entries := accounts.filterMap read
    failedFileIds := ((accounts.filter fun file => (read file).isNone).map
      fun file => fileStem file.1).toFinset
    observedPaths := (accounts.map fun file => ⟨fileStem file.1⟩).toFinset }

end RawDir

/-- A directory of bytes holds the account files of a directory, and its trash. -/
structure Represents (format : AccountFormat) (raw : RawDir) (dir : AccountsDir) : Prop where
  files : ∀ path : AccountPath, path.stem ≠ "" →
    dir.file? path = (raw.files.lookup path.fileName).map format.content
  named : ∀ path : AccountPath, path.stem = "" → dir.file? path = none
  trash : dir.trash.Perm (raw.trash.values.map format.content)

/-- Two scans, but for the order of the directory. -/
structure DiskScanSnapshot.Same (snapshot snapshot' : DiskScanSnapshot) : Prop where
  entries : snapshot.entries.Perm snapshot'.entries
  failedFileIds : snapshot.failedFileIds = snapshot'.failedFileIds
  observedPaths : snapshot.observedPaths = snapshot'.observedPaths

/-! ## Names -/

theorem extension_fileName {path : AccountPath} (hstem : path.stem ≠ "") :
    extension path.fileName = some "json" := extension_dotted hstem (by decide) (by decide)

theorem fileStem_fileName {path : AccountPath} (hstem : path.stem ≠ "") :
    fileStem path.fileName = path.stem := fileStem_dotted hstem (by decide) (by decide)

/-- A scan does not look at a temporary file. -/
theorem extension_tempAccountName (fileName : String) (stamp : ℕ) :
    extension (tempAccountName fileName stamp) = some "tmp" := by
  refine extension_dotted (fun h => ?_) (by decide) (by decide)
  have hlength := congrArg String.length h
  simp [String.length_append] at hlength

theorem tempAccountName_ne {path path' : AccountPath} (hstem : path.stem ≠ "") (stamp : ℕ) :
    path.fileName ≠ tempAccountName path'.fileName stamp := by
  intro h
  have hextension := extension_fileName hstem
  rw [h, extension_tempAccountName] at hextension
  exact absurd hextension (by decide)

theorem fileName_injective {path path' : AccountPath} (h : path.fileName = path'.fileName) :
    path = path' := by
  have hlist := congrArg String.toList h
  simp only [AccountPath.fileName, String.toList_append, List.append_left_inj] at hlist
  cases path
  cases path'
  exact congrArg AccountPath.mk (String.toList_injective hlist)

/-- Different attempts have different candidates, whatever the clock says. -/
theorem trashCandidate_injective (path : AccountPath) (timestamp : ℕ → ℕ) :
    Function.Injective (trashCandidate path timestamp) := by
  intro m n h
  have hlist := congrArg String.toList h
  unfold trashCandidate at hlist
  split_ifs at hlist with hm hn hn
  · rw [hm, hn]
  · simp [AccountPath.fileName, String.toList_append] at hlist
  · simp [AccountPath.fileName, String.toList_append] at hlist
  · simp only [String.toList_append] at hlist
    -- the attempt stands between the last hyphen and the extension
    have hbare := List.append_cancel_right (List.append_cancel_right hlist)
    rw [List.append_assoc _ "-".toList, List.append_assoc _ "-".toList (toString n).toList,
      show "-".toList = ['-'] by simp, List.singleton_append, List.singleton_append] at hbare
    have hcut := cut_injective (not_mem_toString_nat m (c := '-') (by decide))
      (not_mem_toString_nat n (c := '-') (by decide)) hbare
    exact toString_nat_injective (String.toList_injective hcut.2)

/-- There is a candidate for each file in the trash, and one more. -/
theorem RawDir.lookup_uniqueTrashName (raw : RawDir) (path : AccountPath) (timestamp : ℕ → ℕ) :
    raw.trash.lookup (raw.uniqueTrashName path timestamp) = none := by
  set candidates := (List.range (raw.trash.keys.length + 1)).map (trashCandidate path timestamp)
    with hcandidates
  have hnodup : candidates.Nodup :=
    List.nodup_range.map (trashCandidate_injective path timestamp)
  obtain ⟨free, hfree, hname⟩ : ∃ free ∈ candidates, raw.trash.lookup free = none := by
    by_contra hnone
    push Not at hnone
    have hsubset : candidates ⊆ raw.trash.keys := by
      intro name hmem
      obtain ⟨bytes, hbytes⟩ := Option.ne_none_iff_exists'.mp (hnone name hmem)
      exact AList.mem_keys.mp (AList.lookup_isSome.mp (Option.isSome_of_eq_some hbytes))
    have hlength := (hnodup.subperm hsubset).length_le
    simp [hcandidates] at hlength
  have hfound : (candidates.find? fun name => (raw.trash.lookup name).isNone).isSome :=
    List.find?_isSome.mpr ⟨free, hfree, Option.isNone_iff_eq_none.mpr hname⟩
  obtain ⟨name, hname⟩ := Option.isSome_iff_exists.mp hfound
  have hisNone := List.find?_some hname
  rw [uniqueTrashName, ← hcandidates, hname]
  exact Option.isNone_iff_eq_none.mp hisNone

/-! ## One operation -/

/-- The call is about one file of the accounts directory, by its name. -/
def RawCall.Within (name : String) : RawCall → Prop
  | .remove name' | .create name' | .append name' _ | .sync name' => name' = name
  | .rename _ _ | .moveToTrash _ _ | .setPermissions _ => False

namespace RawDir

variable {format : AccountFormat} {conditions : Conditions} {raw : RawDir} {dir : AccountsDir}

theorem apply_within {temp name : String} {call : RawCall} (hcall : call.Within temp)
    (hname : name ≠ temp) (raw : RawDir) :
    (raw.apply call).files.lookup name = raw.files.lookup name ∧
      (raw.apply call).trash = raw.trash := by
  cases call with
  | remove name' =>
    obtain rfl := hcall
    exact ⟨AList.lookup_erase_ne hname, rfl⟩
  | create name' =>
    obtain rfl := hcall
    exact ⟨AList.lookup_insert_ne hname, rfl⟩
  | append name' bytes =>
    obtain rfl := hcall
    exact ⟨HashMap.lookup_modify_ne _ hname _, rfl⟩
  | sync name' => exact ⟨rfl, rfl⟩
  | rename source target | moveToTrash source target | setPermissions target => cases hcall

theorem applyAll_within {temp name : String} {calls : List RawCall}
    (hcalls : ∀ call ∈ calls, call.Within temp) (hname : name ≠ temp) (raw : RawDir) :
    (raw.applyAll calls).files.lookup name = raw.files.lookup name ∧
      (raw.applyAll calls).trash = raw.trash := by
  induction calls generalizing raw with
  | nil => exact ⟨rfl, rfl⟩
  | cons call calls ih =>
    have hfirst := apply_within (hcalls call List.mem_cons_self) hname raw
    have hrest := ih (fun call' hmem => hcalls call' (List.mem_cons_of_mem _ hmem)) (raw.apply call)
    exact ⟨hrest.1.trans hfirst.1, hrest.2.trans hfirst.2⟩

theorem prepareCalls_within (path : AccountPath) (disk : AccountFile) :
    ∀ call ∈ prepareCalls format conditions raw path disk,
      call.Within (tempAccountName path.fileName conditions.stamp) := by
  intro call hmem
  unfold prepareCalls at hmem
  rcases List.mem_append.mp hmem with hmem | hmem
  · split_ifs at hmem
    · rw [List.mem_singleton.mp hmem]
      rfl
    · cases hmem
  · rcases List.mem_cons.mp hmem with rfl | hmem
    · rfl
    · rcases List.mem_append.mp hmem with hmem | hmem
      · obtain ⟨bytes, _, rfl⟩ := List.mem_map.mp hmem
        rfl
      · rw [List.mem_singleton.mp hmem]
        rfl

theorem lookup_appends (name : String) (chunks : List (List Byte)) {bytes : List Byte}
    (h : raw.files.lookup name = some bytes) :
    (raw.applyAll (chunks.map (.append name))).files.lookup name =
      some (bytes ++ chunks.flatten) := by
  induction chunks generalizing raw bytes with
  | nil => simpa [applyAll] using h
  | cons chunk chunks ih =>
    have hfirst : (raw.apply (.append name chunk)).files.lookup name = some (bytes ++ chunk) := by
      simp [apply, h]
    rw [List.flatten_cons, ← List.append_assoc]
    exact ih hfirst

/-- The temporary file holds the whole document before it takes the place of the account file. -/
theorem lookup_prepareCalls (path : AccountPath) (disk : AccountFile) :
    (raw.applyAll (prepareCalls format conditions raw path disk)).files.lookup
      (tempAccountName path.fileName conditions.stamp) = some (format.encode disk) := by
  unfold prepareCalls
  generalize tempAccountName path.fileName conditions.stamp = temp
  dsimp only
  generalize (if (raw.files.lookup temp).isSome then [RawCall.remove temp] else []) = remove
  rw [applyAll_append, show ∀ (raw : RawDir) (call : RawCall) calls,
    raw.applyAll (call :: calls) = (raw.apply call).applyAll calls from fun _ _ _ => rfl,
    applyAll_append]
  have hcreated : ((raw.applyAll remove).apply (.create temp)).files.lookup temp = some [] :=
    AList.lookup_insert ..
  have hwritten := lookup_appends temp (conditions.cut (format.encode disk)) hcreated
  rw [conditions.flatten_cut, List.nil_append] at hwritten
  exact hwritten

end RawDir

namespace Represents

variable {format : AccountFormat} {conditions : Conditions} {raw raw' : RawDir} {dir : AccountsDir}

/-- Calls about a file that no scan sees. -/
theorem of_hidden (h : Represents format raw dir)
    (hfiles : ∀ path : AccountPath, path.stem ≠ "" →
      raw'.files.lookup path.fileName = raw.files.lookup path.fileName)
    (htrash : raw'.trash = raw.trash) : Represents format raw' dir where
  files path hpath := by rw [hfiles path hpath, h.files path hpath]
  named := h.named
  trash := by rw [htrash]; exact h.trash

theorem write (h : Represents format raw dir) {path : AccountPath} {disk : AccountFile}
    {temp : String} (hstem : path.stem ≠ "")
    (htemp : raw.files.lookup temp = some (format.encode disk))
    (hhidden : ∀ path : AccountPath, path.stem ≠ "" → path.fileName ≠ temp) :
    Represents format (raw.apply (.rename temp path.fileName))
      (dir.applyDiskOp (.write path disk)) where
  files path' hpath' := by
    rw [RawDir.apply, htemp]
    show (dir.files.insert path _).lookup path' = _
    rw [HashMap.lookup_insert_eq, HashMap.lookup_insert_eq, HashMap.lookup_erase_eq,
      if_neg (hhidden path' hpath')]
    by_cases hsame : path' = path
    · rw [if_pos hsame, if_pos (congrArg AccountPath.fileName hsame), Option.map_some,
        AccountFormat.content, format.decode_encode]
    · rw [if_neg hsame, if_neg fun heq => hsame (fileName_injective heq)]
      exact h.files path' hpath'
  named path' hpath' := by
    have hne : path' ≠ path := by rintro rfl; exact hstem hpath'
    show (dir.files.insert path _).lookup path' = none
    rw [HashMap.lookup_insert_eq, if_neg hne]
    exact h.named path' hpath'
  trash := by
    rw [RawDir.apply, htemp]
    exact h.trash

theorem remove (h : Represents format raw dir) (path : AccountPath) :
    Represents format (raw.apply (.remove path.fileName)) (dir.applyDiskOp (.remove path)) where
  files path' hpath' := by
    show (dir.files.erase path).lookup path' = ((raw.files.erase path.fileName).lookup _).map _
    rw [HashMap.lookup_erase_eq, HashMap.lookup_erase_eq]
    by_cases hsame : path' = path
    · rw [if_pos hsame, if_pos (congrArg AccountPath.fileName hsame), Option.map_none]
    · rw [if_neg hsame, if_neg fun heq => hsame (fileName_injective heq)]
      exact h.files path' hpath'
  named path' hpath' := by
    show (dir.files.erase path).lookup path' = none
    rw [HashMap.lookup_erase_eq]
    split_ifs
    · rfl
    · exact h.named path' hpath'
  trash := h.trash

theorem moveToTrash (h : Represents format raw dir) {path : AccountPath} {target : String}
    {bytes : List Byte} (hstem : path.stem ≠ "")
    (hfile : raw.files.lookup path.fileName = some bytes)
    (htarget : raw.trash.lookup target = none) :
    Represents format (raw.apply (.moveToTrash path.fileName target))
      (dir.applyDiskOp (.moveToTrash path)) where
  files path' hpath' := by
    rw [RawDir.apply, hfile]
    exact (h.remove path).files path' hpath'
  named := (h.remove path).named
  trash := by
    have hfree : target ∉ raw.trash := AList.lookup_eq_none.mp htarget
    rw [RawDir.apply, hfile]
    show (dir.trash ++ (dir.file? path).toList).Perm _
    rw [h.files path hstem, hfile, HashMap.values, AList.entries_insert_of_notMem hfree]
    exact (List.perm_append_singleton _ _).trans (h.trash.cons _)

/-- Removing or moving a file that is not there. -/
theorem absent (h : Represents format raw dir) {path : AccountPath} (hstem : path.stem ≠ "")
    (hfile : raw.files.lookup path.fileName = none) :
    Represents format raw (dir.applyDiskOp (.remove path)) ∧
      Represents format raw (dir.applyDiskOp (.moveToTrash path)) := by
  have hnone : dir.file? path = none := by rw [h.files path hstem, hfile, Option.map_none]
  have herase : ∀ path', (dir.files.erase path).lookup path' = dir.file? path' := by
    intro path'
    rw [HashMap.lookup_erase_eq]
    split_ifs with hsame
    · rw [hsame, hnone]
    · rfl
  have hremoved : Represents format raw (dir.applyDiskOp (.remove path)) :=
    { files := fun path' hpath' => (herase path').trans (h.files path' hpath')
      named := fun path' hpath' => (herase path').trans (h.named path' hpath')
      trash := h.trash }
  refine ⟨hremoved, hremoved.files, hremoved.named, ?_⟩
  show (dir.trash ++ (dir.file? path).toList).Perm _
  rw [hnone, Option.toList_none, List.append_nil]
  exact h.trash

/-- Whatever call of an operation is the last one made, the operation is done or not. -/
theorem calls_take (h : Represents format raw dir) (conditions : Conditions) (op : AccountDiskOp)
    (hstem : op.target.stem ≠ "") (budget : ℕ) :
    let calls := raw.calls format conditions op
    (Represents format (raw.applyAll (calls.take budget)) dir ∨
      Represents format (raw.applyAll (calls.take budget)) (dir.applyDiskOp op)) ∧
    Represents format (raw.applyAll calls) (dir.applyDiskOp op) := by
  cases op with
  | write path disk =>
    set temp := tempAccountName path.fileName conditions.stamp with htemp
    set prepare := RawDir.prepareCalls format conditions raw path disk with hprepare
    have hhidden : ∀ path' : AccountPath, path'.stem ≠ "" → path'.fileName ≠ temp :=
      fun path' hpath' => tempAccountName_ne hpath' _
    have hprepared : ∀ calls, calls <+: prepare → Represents format (raw.applyAll calls) dir := by
      intro calls hcalls
      have hwithin : ∀ call ∈ calls, call.Within temp :=
        fun call hmem => RawDir.prepareCalls_within path disk call (hcalls.subset hmem)
      exact h.of_hidden
        (fun path' hpath' => (RawDir.applyAll_within hwithin (hhidden path' hpath') raw).1)
        (RawDir.applyAll_within hwithin (hhidden path hstem) raw).2
    have hdone : Represents format (raw.applyAll (prepare ++ [.rename temp path.fileName]))
        (dir.applyDiskOp (.write path disk)) := by
      rw [RawDir.applyAll_append]
      exact (hprepared prepare List.prefix_rfl).write hstem
        (RawDir.lookup_prepareCalls path disk) hhidden
    refine ⟨?_, hdone⟩
    rcases Nat.lt_or_ge prepare.length budget with hbudget | hbudget
    · right
      show Represents format (raw.applyAll
        ((prepare ++ [RawCall.rename temp path.fileName]).take budget)) _
      rw [List.take_of_length_le (by simpa using Nat.succ_le_of_lt hbudget)]
      exact hdone
    · left
      show Represents format (raw.applyAll
        ((prepare ++ [RawCall.rename temp path.fileName]).take budget)) _
      rw [List.take_append_of_le_length hbudget]
      exact hprepared _ (List.take_prefix ..)
  | remove path =>
    replace hstem : path.stem ≠ "" := hstem
    have hcalls : raw.calls format conditions (.remove path) =
        if (raw.files.lookup path.fileName).isSome then [.remove path.fileName] else [] := rfl
    dsimp only
    cases hfile : raw.files.lookup path.fileName with
    | none =>
      rw [hcalls, hfile, List.take_of_length_le (Nat.zero_le _)]
      exact ⟨Or.inl h, (h.absent hstem hfile).1⟩
    | some bytes =>
      have hdone := h.remove path
      rw [hcalls, hfile]
      cases budget with
      | zero => exact ⟨Or.inl h, hdone⟩
      | succ budget =>
        rw [List.take_of_length_le (Nat.succ_le_succ (Nat.zero_le budget))]
        exact ⟨Or.inr hdone, hdone⟩
  | moveToTrash path =>
    replace hstem : path.stem ≠ "" := hstem
    set target := raw.uniqueTrashName path conditions.timestamp with htarget
    have hcalls : raw.calls format conditions (.moveToTrash path) =
        if (raw.files.lookup path.fileName).isSome then
          [.moveToTrash path.fileName target, .setPermissions target] else [] := rfl
    dsimp only
    cases hfile : raw.files.lookup path.fileName with
    | none =>
      rw [hcalls, hfile, List.take_of_length_le (Nat.zero_le _)]
      exact ⟨Or.inl h, (h.absent hstem hfile).2⟩
    | some bytes =>
      have hdone := h.moveToTrash hstem hfile (raw.lookup_uniqueTrashName path conditions.timestamp)
      rw [hcalls, hfile]
      -- the permissions are set behind the move, so the move decides
      match budget with
      | 0 => exact ⟨Or.inl h, hdone⟩
      | 1 => exact ⟨Or.inr hdone, hdone⟩
      | budget + 2 =>
        rw [List.take_of_length_le (Nat.succ_le_succ (Nat.succ_le_succ (Nat.zero_le budget)))]
        exact ⟨Or.inr hdone, hdone⟩

end Represents

/-! ## Batches of operations -/

namespace Represents

variable {format : AccountFormat} {raw : RawDir} {dir : AccountsDir}
  {ops : List (AccountDiskOp × Conditions)}

theorem executeUntil (h : Represents format raw dir)
    (hstems : ∀ op ∈ ops, op.1.target.stem ≠ "") (budget : ℕ) :
    ∃ done, done <+: ops.map Prod.fst ∧
      Represents format (raw.executeUntil format ops budget) (dir.applyDiskOps done) := by
  induction ops generalizing raw dir budget with
  | nil => exact ⟨[], List.prefix_rfl, h⟩
  | cons op ops ih =>
    obtain ⟨op, conditions⟩ := op
    have hop := h.calls_take conditions op (hstems _ List.mem_cons_self) budget
    have hrest : ∀ op ∈ ops, op.1.target.stem ≠ "" :=
      fun op hmem => hstems op (List.mem_cons_of_mem _ hmem)
    unfold RawDir.executeUntil
    dsimp only
    split_ifs
    · rcases hop.1 with hbefore | hbehind
      · exact ⟨[], List.nil_prefix, hbefore⟩
      · exact ⟨[op], List.prefix_append [op] _, hbehind⟩
    · obtain ⟨done, hdone, hrepresents⟩ := ih hop.2 hrest _
      exact ⟨op :: done, List.prefix_cons_inj op |>.mpr hdone, hrepresents⟩

theorem execute (h : Represents format raw dir)
    (hstems : ∀ op ∈ ops, op.1.target.stem ≠ "") :
    Represents format (raw.execute format ops) (dir.applyDiskOps (ops.map Prod.fst)) := by
  induction ops generalizing raw dir with
  | nil => exact h
  | cons op ops ih =>
    have hop := h.calls_take op.2 op.1 (hstems _ List.mem_cons_self) 0
    exact ih hop.2 fun op hmem => hstems op (List.mem_cons_of_mem _ hmem)

theorem executeBatches {batches : List (List (AccountDiskOp × Conditions) × Option ℕ)}
    (h : Represents format raw dir)
    (hstems : ∀ batch ∈ batches, ∀ op ∈ batch.1, op.1.target.stem ≠ "") :
    ∃ done : List (List AccountDiskOp),
      List.Forall₂ (fun done batch => done <+: batch.1.map Prod.fst ∧
        (batch.2 = none → done = batch.1.map Prod.fst)) done batches ∧
      Represents format (raw.executeBatches format batches) (dir.applyDiskOps done.flatten) := by
  induction batches generalizing raw dir with
  | nil => exact ⟨[], .nil, h⟩
  | cons batch batches ih =>
    obtain ⟨ops, budget⟩ := batch
    have hfirst := hstems _ List.mem_cons_self
    have hrest : ∀ batch ∈ batches, ∀ op ∈ batch.1, op.1.target.stem ≠ "" :=
      fun batch hmem => hstems batch (List.mem_cons_of_mem _ hmem)
    cases budget with
    | none =>
      obtain ⟨done, hdone, hrepresents⟩ := ih (h.execute hfirst) hrest
      refine ⟨ops.map Prod.fst :: done, .cons ⟨List.prefix_rfl, fun _ => rfl⟩ hdone, ?_⟩
      rw [List.flatten_cons, AccountsDir.applyDiskOps, List.foldl_append]
      exact hrepresents
    | some budget =>
      obtain ⟨first, hfirst, hbatch⟩ := h.executeUntil hfirst budget
      obtain ⟨done, hdone, hrepresents⟩ := ih hbatch hrest
      refine ⟨first :: done, .cons ⟨hfirst, fun hnone => nomatch hnone⟩ hdone, ?_⟩
      rw [List.flatten_cons, AccountsDir.applyDiskOps, List.foldl_append]
      exact hrepresents

/-! ## What a scan sees -/

/-- The account files of a directory of bytes, by their paths. -/
theorem perm_entries (h : Represents format raw dir) :
    dir.files.entries.Perm
      ((raw.files.entries.filter fun file => extension file.1 = some "json").map
        fun file => ⟨⟨fileStem file.1⟩, format.content file.2⟩) := by
  set accounts := raw.files.entries.filter fun file => extension file.1 = some "json"
    with haccounts
  have hmem : ∀ {name bytes}, ⟨name, bytes⟩ ∈ accounts ↔
      raw.files.lookup name = some bytes ∧ extension name = some "json" := by
    intro name bytes
    rw [haccounts, List.mem_filter, decide_eq_true_iff]
    exact and_congr_left' AList.mem_lookup_iff.symm
  have hnames : ∀ name ∈ accounts.keys, extension name = some "json" := by
    intro name hname
    obtain ⟨⟨_, bytes⟩, hfile, rfl⟩ := List.mem_map.mp hname
    exact (hmem.mp hfile).2
  have hnodup : (accounts.keys.map fun name => (⟨fileStem name⟩ : AccountPath)).Nodup := by
    refine List.Nodup.map_on ?_ (raw.files.nodupKeys.sublist List.filter_sublist)
    intro name hname name' hname' hpath
    rw [(eq_dotted (hnames name hname)).1, (eq_dotted (hnames name' hname')).1,
      AccountPath.mk.inj hpath]
  have hnodupKeys : List.NodupKeys (accounts.map fun file =>
      (⟨⟨fileStem file.1⟩, format.content file.2⟩ : Σ _ : AccountPath, FileContent)) := by
    rw [List.NodupKeys, List.keys, List.map_map]
    rwa [List.keys, List.map_map] at hnodup
  refine List.lookup_ext dir.files.nodupKeys hnodupKeys fun path content => ?_
  rw [List.mem_dlookup_iff hnodupKeys, List.mem_map]
  constructor
  · intro hcontent
    have hfile : dir.file? path = some content := hcontent
    have hstem : path.stem ≠ "" := by
      intro hstem
      rw [h.named path hstem] at hfile
      cases hfile
    rw [h.files path hstem] at hfile
    obtain ⟨bytes, hbytes, rfl⟩ := Option.map_eq_some_iff.mp hfile
    refine ⟨⟨path.fileName, bytes⟩, hmem.mpr ⟨hbytes, extension_fileName hstem⟩, ?_⟩
    rw [fileStem_fileName hstem]
  · rintro ⟨⟨name, bytes⟩, hfile, heq⟩
    obtain ⟨rfl, hcontent⟩ := Sigma.mk.inj heq
    obtain ⟨hbytes, hextension⟩ := hmem.mp hfile
    obtain ⟨hname, hstem⟩ := eq_dotted hextension
    have hdir := h.files ⟨fileStem name⟩ hstem
    rw [AccountPath.fileName, ← hname, hbytes] at hdir
    exact hdir.trans (congrArg some (eq_of_heq hcontent))

/-- A scan reads the account files, and nothing of the files a write was preparing. -/
theorem scan_same (h : Represents format raw dir) :
    (raw.scan format).Same (scanAccountsDir dir) := by
  have hperm := h.perm_entries.symm
  set accounts := raw.files.entries.filter fun file => extension file.1 = some "json"
  refine ⟨?_, ?_, ?_⟩
  · have hentries := hperm.filterMap fun e => FileContent.accountEntry e.1 e.2
    rw [List.filterMap_map] at hentries
    exact hentries
  · have hfailed := (hperm.filter fun e => (FileContent.accountEntry e.1 e.2).isNone).map
      fun e => e.1.stem
    rw [List.filter_map, List.map_map] at hfailed
    exact List.toFinset_eq_of_perm _ _ hfailed
  · have hobserved := hperm.map Sigma.fst
    rw [List.map_map] at hobserved
    exact List.toFinset_eq_of_perm _ _ hobserved

theorem empty (format : AccountFormat) : Represents format ⟨∅, ∅⟩ ⟨∅, []⟩ where
  files _ _ := rfl
  named _ _ := rfl
  trash := List.Perm.nil

end Represents

/-- Batches of operations of which any may be cut short, by a call that fails or by the end of
the process: behind them the directory is as if a front part of each batch had been done whole
and nothing else, and that is what the next scan reads. A batch that is not cut short is done. -/
theorem batches_done_whole {format : AccountFormat} {raw : RawDir} {dir : AccountsDir}
    {batches : List (List (AccountDiskOp × Conditions) × Option ℕ)}
    (h : Represents format raw dir)
    (hstems : ∀ batch ∈ batches, ∀ op ∈ batch.1, op.1.target.stem ≠ "") :
    ∃ done : List (List AccountDiskOp),
      List.Forall₂ (fun done batch => done <+: batch.1.map Prod.fst ∧
        (batch.2 = none → done = batch.1.map Prod.fst)) done batches ∧
      Represents format (raw.executeBatches format batches) (dir.applyDiskOps done.flatten) ∧
      ((raw.executeBatches format batches).scan format).Same
        (scanAccountsDir (dir.applyDiskOps done.flatten)) := by
  obtain ⟨done, hdone, hrepresents⟩ := h.executeBatches hstems
  exact ⟨done, hdone, hrepresents, hrepresents.scan_same⟩

def exampleConditions : Conditions where
  stamp := 1
  cut bytes := [bytes.take 20, bytes.drop 20]
  flatten_cut bytes := by simp
  timestamp _ := 2

/-- An account is imported; the next write to its file is cut short, and then the file is moved
to the trash. -/
def exampleBatches : List (List (AccountDiskOp × Conditions) × Option ℕ) :=
  let path : AccountPath := ⟨"work"⟩
  [([(.write path ⟨"token", none, none⟩, exampleConditions)], none),
    ([(.write path ⟨"token", some "home", none⟩, exampleConditions)], some 3),
    ([(.moveToTrash path, exampleConditions)], some 1)]

theorem batches_done_whole_example :
    ∃ done : List (List AccountDiskOp),
      List.Forall₂ (fun done batch => done <+: batch.1.map Prod.fst ∧
        (batch.2 = none → done = batch.1.map Prod.fst)) done exampleBatches ∧
      Represents AccountFormat.pretty
        (RawDir.executeBatches AccountFormat.pretty ⟨∅, ∅⟩ exampleBatches)
        (AccountsDir.applyDiskOps ⟨∅, []⟩ done.flatten) ∧
      ((RawDir.executeBatches AccountFormat.pretty ⟨∅, ∅⟩ exampleBatches).scan
          AccountFormat.pretty).Same
        (scanAccountsDir (AccountsDir.applyDiskOps ⟨∅, []⟩ done.flatten)) :=
  batches_done_whole (Represents.empty _) (by simp [exampleBatches, AccountDiskOp.target])

end Codaze.Accounts
