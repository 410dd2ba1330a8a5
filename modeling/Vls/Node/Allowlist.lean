import Mathlib.Data.Finset.Lattice.Basic
import Vls.Policy.SimpleValidator

/-! # The allowlist

The calls that change the allowlist read and apply their entries one after the other, and the list
is persisted at the end. What was applied before a call fails stays in memory. -/

namespace Vls.Allowlist

inductive NetworkKind where
  | main
  | test
  deriving DecidableEq

inductive Allowable where
  | script (script : Script)
  | payee (pubkey : PublicKey)
  | xpub (xpub : BitVec 624)
  deriving DecidableEq

/-- The text forms of addresses and keys. -/
structure Texts where
  /-- The script of an address, for the networks that the address is for. -/
  address : String → Option (Network → Option Script)
  pubkey : String → Option PublicKey
  xpub : String → Option (BitVec 624 × NetworkKind)
  addressOf : Script → Network → Option String
  scriptHex : Script → String
  pubkeyText : PublicKey → String
  xpubText : BitVec 624 → String

/-- A node's texts and network, and whether the persister takes what it is given. -/
structure Env where
  texts : Texts
  network : Network
  networkText : String
  persisted : Bool

def NetworkKind.ofNetwork : Network → NetworkKind
  | .bitcoin => .main
  | _ => .test

variable (env : Env)

def Allowable.toString : Allowable → String
  | .script s =>
    match env.texts.addressOf s env.network with
    | some address => s!"address:{address}"
    | none => s!"invalid_script:{env.texts.scriptHex s}"
  | .payee pubkey => s!"payee:{env.texts.pubkeyText pubkey}"
  | .xpub key => s!"xpub:{env.texts.xpubText key}"

def addressFromStr (s body : String) : Except String Allowable :=
  match env.texts.address body with
  | none => .error s
  | some script =>
    match script env.network with
    | none => .error s!"{s}: expected network {env.networkText}"
    | some script => .ok (.script script)

def Allowable.fromStr (s : String) : Except String Allowable :=
  match s.toList.dropWhile (· ≠ ':') with
  | [] => addressFromStr env s s
  | _ :: body =>
    let body := String.ofList body
    let kind := s.toList.takeWhile (· ≠ ':')
    if kind = "address".toList then addressFromStr env s body
    else if kind = "payee".toList then
      match env.texts.pubkey body with
      | none => .error s
      | some pubkey => .ok (.payee pubkey)
    else if kind = "xpub".toList then
      match env.texts.xpub body with
      | none => .error s
      | some (key, keyNetwork) =>
        if keyNetwork ≠ .ofNetwork env.network then
          .error s!"{s}: expected network {env.networkText}"
        else .ok (.xpub key)
    else .error s

/-- The list in memory, and the texts in the store. Their order is that of the entries, and is
    left out. -/
structure State where
  allowlist : Finset Allowable
  stored : Finset String

def editEach (edit : Finset Allowable → Allowable → Finset Allowable) :
    List String → Call Status State Unit
  | [] => pure ()
  | entry :: rest =>
    match Allowable.fromStr env entry with
    | .error e => throw (.err (Status.invalidArgument s!"could not parse {e}"))
    | .ok allowable => do
      modify fun s => { s with allowlist := edit s.allowlist allowable }
      editEach edit rest

def updateAllowlist : Call Status State Unit := do
  if env.persisted = false then throw (.err (Status.internal "persist failed"))
  modify fun s => { s with stored := s.allowlist.image (Allowable.toString env) }

def addAllowlist (adds : List String) : Call Status State Unit := do
  editEach env (fun allowlist allowable => insert allowable allowlist) adds
  updateAllowlist env

def setAllowlist (list : List String) : Call Status State Unit := do
  modify fun s => { s with allowlist := ∅ }
  editEach env (fun allowlist allowable => insert allowable allowlist) list
  updateAllowlist env

def removeAllowlist (removes : List String) : Call Status State Unit := do
  editEach env Finset.erase removes
  updateAllowlist env

inductive Request where
  | add (entries : List String)
  | set (entries : List String)
  | remove (entries : List String)

def Request.entries : Request → List String
  | .add entries | .set entries | .remove entries => entries

def perform : Request → Call Status State Unit
  | .add adds => addAllowlist env adds
  | .set list => setAllowlist env list
  | .remove removes => removeAllowlist env removes

def readEntries : List String → List Allowable
  | [] => []
  | entry :: rest =>
    match Allowable.fromStr env entry with
    | .error _ => []
    | .ok allowable => allowable :: readEntries rest

def Readable (entries : List String) : Prop :=
  ∀ entry ∈ entries, (Allowable.fromStr env entry).toOption.isSome

def Request.edited (allowlist : Finset Allowable) : Request → Finset Allowable
  | .add entries => allowlist ∪ (readEntries env entries).toFinset
  | .set entries => (readEntries env entries).toFinset
  | .remove entries => allowlist \ (readEntries env entries).toFinset

/-- After an error the list is what it was, and otherwise the store has the list. -/
def Atomic (s : State) (request : Request) : Prop :=
  Call.Ends (perform env request) s
    (fun _ s' => s'.stored = s'.allowlist.image (Allowable.toString env))
    (fun _ s' => s'.allowlist = s.allowlist)

/-- The call goes through, or there is nothing that it could leave behind. -/
def Unharmed (s : State) (request : Request) : Prop :=
  Readable env request.entries ∧ env.persisted = true ∨ request.edited env s.allowlist = s.allowlist

variable {env} {edit : Finset Allowable → Allowable → Finset Allowable} {entries : List String}
  {s : State} {request : Request}

theorem editEach_ends {good : Unit → State → Prop} {bad : State → Prop} :
    Call.Ends (editEach env edit entries) s good (fun _ => bad)
      ↔ (Readable env entries → good () { s with
          allowlist := (readEntries env entries).foldl edit s.allowlist })
        ∧ (¬ Readable env entries →
          bad { s with allowlist := (readEntries env entries).foldl edit s.allowlist }) := by
  induction entries generalizing s with
  | nil => simp [editEach, Readable, readEntries]
  | cons entry rest ih =>
    cases read : Allowable.fromStr env entry with
    | error e => simp [editEach, Readable, readEntries, read, Except.toOption]
    | ok allowable =>
      simp only [editEach, read, Call.ends_bind, Call.ends_modify, ih]
      simp [Readable, readEntries, read, Except.toOption]

theorem edits_atomic {before} :
    Call.Ends (do editEach env edit entries; updateAllowlist env) s
        (fun _ s' => s'.stored = s'.allowlist.image (Allowable.toString env))
        (fun _ s' => s'.allowlist = before)
      ↔ Readable env entries ∧ env.persisted = true
        ∨ (readEntries env entries).foldl edit s.allowlist = before := by
  have updated (s : State) : Call.Ends (updateAllowlist env) s
        (fun _ s' => s'.stored = s'.allowlist.image (Allowable.toString env))
        (fun _ s' => s'.allowlist = before)
      ↔ env.persisted = true ∨ s.allowlist = before := by
    cases stored : env.persisted <;> simp [updateAllowlist, stored]
  rw [Call.ends_bind, editEach_ends]
  simp only [updated]
  tauto

theorem foldl_insert {allowlist} {read : List Allowable} :
    read.foldl (fun allowlist allowable => insert allowable allowlist) allowlist
      = allowlist ∪ read.toFinset := by
  induction read generalizing allowlist with
  | nil => simp
  | cons first rest ih => simp [ih, Finset.union_insert]

theorem foldl_erase {allowlist} {read : List Allowable} :
    read.foldl Finset.erase allowlist = allowlist \ read.toFinset := by
  induction read generalizing allowlist with
  | nil => simp
  | cons first rest ih =>
    ext allowable
    simp [ih]
    tauto

/-- A change of the allowlist is atomic exactly if it goes through or would change nothing. -/
theorem atomic_iff : Atomic env s request ↔ Unharmed env s request := by
  cases request with
  | add adds =>
    rw [Unharmed, Request.edited, ← foldl_insert]
    exact edits_atomic
  | set list =>
    rw [Unharmed, Request.edited, ← Finset.empty_union (readEntries env list).toFinset,
      ← foldl_insert]
    exact edits_atomic (s := { s with allowlist := ∅ })
  | remove removes =>
    rw [Unharmed, Request.edited, ← foldl_erase]
    exact edits_atomic

def toyEnv : Env where
  texts := ⟨fun _ => none, fun text => if text = "" then none else some ⟨1⟩, fun _ => none,
    fun _ _ => none, fun _ => "", fun _ => "01", fun _ => ""⟩
  network := .testnet
  networkText := "testnet"
  persisted := true

/-- A list that is refused for its second entry replaces the old one by its first. -/
theorem refused_list_replaces :
    setAllowlist toyEnv ["payee:01", "payee:"] ⟨{.payee ⟨7⟩}, {"payee:01"}⟩
        = .error (.err (Status.invalidArgument "could not parse payee:"))
          ⟨{.payee ⟨1⟩}, {"payee:01"}⟩
      ∧ ¬ Atomic toyEnv ⟨{.payee ⟨7⟩}, {"payee:01"}⟩ (.set ["payee:01", "payee:"]) := by
  refine ⟨rfl, ?_⟩
  intro atomic
  have kept : ({.payee ⟨1⟩} : Finset Allowable) = {.payee ⟨7⟩} := atomic
  simp at kept

end Vls.Allowlist
