import Vls.Lib.Map
import Vls.Storage.Spec

/-! # One table for all clients

Two of the back ends keep the values of all clients in one table, under keys that start with the
client's id in hexadecimal digits. The slash after it is not a digit, so the keys of different
clients stay apart. -/

namespace Vls.Storage

open List

def hexDigits (byte : U8) : List Char :=
  [Nat.digitChar (byte.toNat / 16), Nat.digitChar (byte.toNat % 16)]

def hexEncode (bytes : List U8) : List Char :=
  bytes.flatMap hexDigits

def fullKey (clientId : ClientId) (key : Key) : Key :=
  hexEncode clientId ++ '/' :: key

def keySuffix (clientId : ClientId) (key : Key) : Key :=
  key.drop (clientId.length * 2 + 1)

theorem digitChar_inj : ∀ a < 16, ∀ b < 16, Nat.digitChar a = Nat.digitChar b → a = b := by decide

theorem digitChar_ne_slash : ∀ a < 16, Nat.digitChar a ≠ '/' := by decide

theorem hexDigits_injective : Function.Injective hexDigits := by
  intro a b same
  have bound (byte : U8) : byte.toNat / 16 < 16 := by omega
  obtain ⟨high, low⟩ := cons.inj same
  have high := digitChar_inj _ (bound a) _ (bound b) high
  have low := digitChar_inj _ (Nat.mod_lt _ (by decide)) _ (Nat.mod_lt _ (by decide))
    (cons.inj low).1
  exact BitVec.eq_of_toNat_eq (by omega)

theorem hexEncode_injective : Function.Injective hexEncode := by
  intro a b same
  induction a generalizing b with
  | nil =>
    cases b with
    | nil => rfl
    | cons byte b => cases same
  | cons byte a ih =>
    cases b with
    | nil => cases same
    | cons byte' b =>
      simp only [hexEncode, flatMap_cons] at same
      obtain ⟨digits, rest⟩ := append_inj same rfl
      rw [hexDigits_injective digits, ih rest]

theorem length_hexEncode (bytes : List U8) : (hexEncode bytes).length = bytes.length * 2 := by
  induction bytes with
  | nil => rfl
  | cons byte rest ih =>
    simp only [hexEncode, flatMap_cons, length_append, length_cons] at ih ⊢
    simp only [ih, hexDigits, length_cons, length_nil]
    omega

theorem slash_notMem_hexEncode (bytes : List U8) : '/' ∉ hexEncode bytes := by
  simp only [hexEncode, mem_flatMap, not_exists, not_and]
  intro byte _ mem
  have bound : byte.toNat / 16 < 16 := by omega
  simp only [hexDigits, mem_cons, not_mem_nil, or_false] at mem
  rcases mem with high | low
  · exact digitChar_ne_slash _ bound high.symm
  · exact digitChar_ne_slash _ (Nat.mod_lt _ (by decide)) low.symm

theorem fullKey_inj {clientId clientId' key key'} :
    fullKey clientId key = fullKey clientId' key' ↔ clientId = clientId' ∧ key = key' := by
  refine ⟨fun same => ?_, by rintro ⟨rfl, rfl⟩; rfl⟩
  have digits := congrArg (takeWhile (· != '/')) same
  have upToSlash (bytes : List U8) (rest : Key) :
      (hexEncode bytes ++ '/' :: rest).takeWhile (· != '/') = hexEncode bytes := by
    rw [takeWhile_append_of_pos fun letter mem => ?_]
    · simp
    · exact bne_iff_ne.mpr fun slash => slash_notMem_hexEncode bytes (slash ▸ mem)
  simp only [fullKey, upToSlash] at digits
  obtain rfl := hexEncode_injective digits
  exact ⟨rfl, (cons.inj (append_cancel_left same)).2⟩

theorem fullKey_eq_append (clientId : ClientId) (key : Key) :
    fullKey clientId key = (hexEncode clientId ++ ['/']) ++ key := by
  simp [fullKey]

theorem fullKey_lt_iff {clientId a b} : fullKey clientId a < fullKey clientId b ↔ a < b := by
  rw [fullKey_eq_append, fullKey_eq_append, Prefix.append_lt_append_iff]

@[simp] theorem keySuffix_fullKey (clientId : ClientId) (key : Key) :
    keySuffix clientId (fullKey clientId key) = key := by
  have : (hexEncode clientId ++ ['/']).length = clientId.length * 2 + 1 := by
    rw [length_append, length_hexEncode]
    rfl
  rw [keySuffix, fullKey_eq_append, ← this, drop_left]

theorem fullKey_isPrefix_iff {clientId keyPrefix full} :
    fullKey clientId keyPrefix <+: full ↔
      ∃ key, full = fullKey clientId key ∧ keyPrefix <+: key := by
  constructor
  · rintro ⟨back, rfl⟩
    refine ⟨keyPrefix ++ back, ?_, prefix_append _ _⟩
    simp [fullKey_eq_append]
  · rintro ⟨key, rfl, back, rfl⟩
    exact ⟨back, by simp [fullKey_eq_append]⟩

section tables

variable {K V : Type}

def rows (table : Map K V) : List (K × V) :=
  table.entries.map fun entry => (entry.1, entry.2)

theorem mem_rows [DecidableEq K] {table} {row : K × V} :
    row ∈ rows table ↔ table.lookup row.1 = some row.2 := by
  simp only [rows, mem_map]
  constructor
  · rintro ⟨entry, mem, rfl⟩
    exact mem_dlookup table.nodupKeys mem
  · intro found
    exact ⟨⟨row.1, row.2⟩, of_mem_dlookup found, rfl⟩

theorem nodup_rows (table : Map K V) : ((rows table).map Prod.fst).Nodup := by
  rw [rows, map_map]
  exact table.nodupKeys

end tables

section views

variable {V : Type} (decode : V → Value) (table : Map Key V) (clientId : ClientId)

def viewOf : Store := fun clientId key => (table.lookup (fullKey clientId key)).map decode

def prefixRows (keyPrefix : Key) : List (Key × Value) :=
  ((Prefix.sortByKey (· ≤ ·) (rows table)).filter
      fun row => (fullKey clientId keyPrefix).isPrefixOf row.1).map
    fun row => (keySuffix clientId row.1, decode row.2)

theorem viewOf_insert (key : Key) (v : V) :
    viewOf decode (table.insert (fullKey clientId key) v)
      = (viewOf decode table).write clientId (key, decode v) := by
  funext clientId' key'
  simp only [viewOf, Store.write, Map.lookup_insert_ite, fullKey_inj]
  split
  · rfl
  · rfl

theorem isReading_prefixRows (keyPrefix : Key) :
    (viewOf decode table).IsReading clientId keyPrefix
      (prefixRows decode table clientId keyPrefix) where
  sorted := by
    rw [prefixRows, pairwise_map, pairwise_filter]
    refine (Prefix.pairwise_sortByKey (nodup_rows table)).imp fun less starts starts' => ?_
    obtain ⟨key, same, -⟩ := fullKey_isPrefix_iff.mp (List.isPrefixOf_iff_prefix.mp starts)
    obtain ⟨key', same', -⟩ := fullKey_isPrefix_iff.mp (List.isPrefixOf_iff_prefix.mp starts')
    rw [same, same', fullKey_lt_iff] at less
    simpa only [same, same', keySuffix_fullKey] using less
  mem_iff entry := by
    simp only [prefixRows, mem_map, mem_filter, Prefix.mem_sortByKey, mem_rows,
      isPrefixOf_iff_prefix, fullKey_isPrefix_iff, viewOf, Option.map_eq_some_iff]
    constructor
    · rintro ⟨⟨full, v⟩, ⟨found, key, rfl, starts⟩, rfl⟩
      have here : viewOf decode table clientId (keySuffix clientId (fullKey clientId key))
          = (some v).map decode := by
        rw [keySuffix_fullKey]
        exact congrArg (Option.map decode) found
      exact ⟨Option.map_eq_some_iff.mp here, by rwa [keySuffix_fullKey]⟩
    · rintro ⟨⟨v, found, decoded⟩, starts⟩
      exact ⟨(fullKey clientId entry.1, v), ⟨found, entry.1, rfl, starts⟩,
        Prod.ext (keySuffix_fullKey clientId entry.1) decoded⟩

end views

end Vls.Storage
