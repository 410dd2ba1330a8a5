import Vls.Storage.Etcd
import Vls.Storage.Postgres
import Vls.Storage.Redb

/-! # The back ends are one versioned map

Each back end refines the contract for the requests that fit it. What does not fit is where they
part: a put that names a key twice, and a read with the wildcards of one query language. -/

namespace Vls.Storage

open Machine

/-- What the databases are set up with: the collation of one and the longest transaction of
    another. -/
structure Config where
  collate : Key → Key → Bool
  maxTxnOps : Nat

inductive BackEnd where
  | redb
  | postgres
  | etcd

namespace BackEnd

def Data : BackEnd → Type
  | redb => RedbDatabase
  | postgres => PostgresDatabase
  | etcd => EtcdStore

def empty : (backEnd : BackEnd) → backEnd.Data
  | redb => (∅ : RedbDatabase)
  | postgres => (∅ : PostgresDatabase)
  | etcd => (∅ : EtcdStore)

def serve (config : Config) : (backEnd : BackEnd) → backEnd.Data → Request → Response × backEnd.Data
  | redb => RedbDatabase.serve
  | postgres => PostgresDatabase.serve config.collate
  | etcd => EtcdDatabase.serve config.maxTxnOps

def machine (config : Config) (backEnd : BackEnd) : Machine backEnd.Data Request Response :=
  ⟨fun data request => some (backEnd.serve config data request)⟩

def view : (backEnd : BackEnd) → backEnd.Data → Store
  | redb => viewOf id
  | postgres => PostgresDatabase.view
  | etcd => viewOf EtcdDatabase.toValue

def Fits (config : Config) : BackEnd → Request → Prop
  | redb => RedbDatabase.Fits
  | postgres => PostgresDatabase.Fits config.collate
  | etcd => EtcdDatabase.Fits config.maxTxnOps

def Counting : (backEnd : BackEnd) → backEnd.Data → Prop
  | redb => RedbDatabase.Countable
  | postgres => fun db => db.view.Counted
  | etcd => EtcdDatabase.Countable

theorem counting_empty (backEnd : BackEnd) : backEnd.Counting backEnd.empty := by
  cases backEnd with
  | redb => exact fun key value found => by cases found
  | postgres => exact fun clientId key value found => by cases found
  | etcd => exact fun key kv found => by cases found

theorem view_empty (backEnd : BackEnd) : backEnd.view backEnd.empty = Store.empty := by
  cases backEnd <;> rfl

theorem serve_answers (config : Config) (backEnd : BackEnd) {data request}
    (counting : backEnd.Counting data) (fits : backEnd.Fits config request) :
    backEnd.Counting (backEnd.serve config data request).2 ∧
      (backEnd.view data).Answers request (backEnd.serve config data request).1
        (backEnd.view (backEnd.serve config data request).2) := by
  cases backEnd with
  | redb => exact RedbDatabase.serve_answers counting fits
  | postgres =>
    have answered := PostgresDatabase.serve_answers counting fits
    exact ⟨answered.counted counting, answered⟩
  | etcd => exact EtcdDatabase.serve_answers counting fits

theorem refines_contract {config : Config} {backEnd : BackEnd} {history data}
    (run : (backEnd.machine config).Run backEnd.empty history data)
    (fits : Machine.Meets (fun _ _ request => backEnd.Fits config request) history) :
    Machine.Trace Store.Answers Store.empty (exchanges history) (backEnd.view data) := by
  rw [← view_empty backEnd]
  refine (run.refines backEnd.view backEnd.Counting fits (counting_empty backEnd) ?_).2
  intro data request response data' counting fit stepped
  obtain ⟨rfl, rfl⟩ := Prod.ext_iff.mp (Option.some.inj stepped)
  exact serve_answers config backEnd counting fit

end BackEnd

/-- Every run of a back end whose requests fit it is a history of the one versioned map, and so
    any two back ends that are asked the same give the same answers. -/
theorem back_ends_are_one_map (config : Config) (backEnd : BackEnd)
    (history : List (Machine.Step backEnd.Data Request Response)) (data : backEnd.Data)
    (run : (backEnd.machine config).Run backEnd.empty history data)
    (fits : Machine.Meets (fun _ _ request => backEnd.Fits config request) history) :
    Machine.Trace Store.Answers Store.empty (exchanges history) (backEnd.view data) ∧
      ∀ (other : BackEnd) (history' : List (Machine.Step other.Data Request Response))
        (data' : other.Data), (other.machine config).Run other.empty history' data' →
        Machine.Meets (fun _ _ request => other.Fits config request) history' →
        history'.map Machine.Step.input = history.map Machine.Step.input →
        exchanges history' = exchanges history ∧ other.view data' = backEnd.view data := by
  have trace := BackEnd.refines_contract run fits
  refine ⟨trace, fun other history' data' run' fits' same => ?_⟩
  have trace' := BackEnd.refines_contract run' fits'
  refine trace'.deterministic (fun one other => one.deterministic other) trace ?_
  simpa only [exchanges, List.map_map, Function.comp_def] using same

namespace Toy

def config : Config := ⟨fun a b => decide (a ≤ b), 128⟩

def client : ClientId := [0x0a#8]

def fresh (byte : U8) : Value := ⟨0, [byte]⟩

def wildcardRead : List Request :=
  [.put client [(['a', 'b'], fresh 1)], .getWithPrefix client ['a', '_']]

def doublePut : Request := .put client [(['k'], fresh 1), (['k'], fresh 2)]

end Toy

/-- A fit put and a fit read, on the back end whose queries are patterns. -/
theorem plain_read_is_of_one_map :
    ∃ history data, (BackEnd.postgres.machine Toy.config).Run BackEnd.postgres.empty history data ∧
      Machine.Meets (fun _ _ request => BackEnd.postgres.Fits Toy.config request) history ∧
      history.map Machine.Step.output = [.values [(['a', 'b'], Toy.fresh 1)], .ok] ∧
      Machine.Trace Store.Answers Store.empty (exchanges history)
        (BackEnd.postgres.view data) := by
  let first : Request := .put Toy.client [(['a', 'b'], Toy.fresh 1)]
  let second : Request := .getWithPrefix Toy.client ['a']
  let served := BackEnd.postgres.serve Toy.config BackEnd.postgres.empty first
  have run : (BackEnd.postgres.machine Toy.config).Run BackEnd.postgres.empty
      [⟨served.2, second, (BackEnd.postgres.serve Toy.config served.2 second).1⟩,
        ⟨BackEnd.postgres.empty, first, served.1⟩]
      (BackEnd.postgres.serve Toy.config served.2 second).2 :=
    .step (.step .init rfl) rfl
  have fits : Machine.Meets (fun _ _ request => BackEnd.postgres.Fits Toy.config request)
      [⟨served.2, second, (BackEnd.postgres.serve Toy.config served.2 second).1⟩,
        ⟨BackEnd.postgres.empty, first, served.1⟩] := by
    refine ⟨⟨by decide, by simp [wildcards], fun a b => decide_eq_true_iff⟩, ⟨?_, ?_⟩, trivial⟩
    · decide
    · intro kv mem
      obtain rfl := List.mem_singleton.mp mem
      exact ⟨by decide, by decide⟩
  refine ⟨_, _, run, fits, by decide +kernel, ?_⟩
  exact (back_ends_are_one_map Toy.config .postgres _ _ run fits).1

/-- A read on one back end lists a key that does not start with the prefix, and a put that names a
    key twice is accepted, refused and an error. -/
theorem back_ends_differ :
    (∃ history data, (BackEnd.postgres.machine Toy.config).Run BackEnd.postgres.empty history data ∧
      ¬ ∃ store, Machine.Trace Store.Answers Store.empty (exchanges history) store) ∧
    (BackEnd.redb.serve Toy.config BackEnd.redb.empty Toy.doublePut).1 = .ok ∧
    (BackEnd.postgres.serve Toy.config BackEnd.postgres.empty Toy.doublePut).1
      = .conflict [(['k'], some (Toy.fresh 1))] ∧
    (BackEnd.etcd.serve Toy.config BackEnd.etcd.empty Toy.doublePut).1 = .databaseError := by
  refine ⟨?_, by decide +kernel, by decide +kernel, by decide +kernel⟩
  obtain ⟨history, data, run, seen⟩ :
      ∃ history data,
        (BackEnd.postgres.machine Toy.config).Run BackEnd.postgres.empty history data ∧
        exchanges history =
          [(.getWithPrefix Toy.client ['a', '_'], .values [(['a', 'b'], Toy.fresh 1)]),
            (.put Toy.client [(['a', 'b'], Toy.fresh 1)], .ok)] :=
    exists_run Toy.wildcardRead (by decide +kernel)
  refine ⟨history, data, run, fun ⟨store, trace⟩ => ?_⟩
  rw [seen] at trace
  cases trace with
  | step _ answered =>
    cases answered with
    | read listed =>
      have starts := ((listed.mem_iff _).mp (List.mem_singleton_self _)).2
      exact absurd starts (by decide)

end Vls.Storage
