import NodeinfoSystem.Collector.Joins
import NodeinfoSystem.Files.Text

/-!
# A node that joins again

`add_nodedata_to_list` appends what it is given. It does not look for the address
among the entries, as the add loop of the relay does before it inserts a node, so a
node that restarts and joins again is listed twice and gets two lines in each file.
-/

namespace NodeinfoSystem.Collector

open Foundation

/-- After every prefix of the joins, whatever is read through `nd_list` names each host once. -/
def OneEntryPerAddress (start : Master) (joins : List Join) : Prop :=
  ∀ earlier later, joins = earlier ++ later → ∀ master,
    (masterLoop start).run earlier = some master →
      ∀ env : Environment, Files.NamesHostsOnce (env.read master.ndList master.heap).entries

theorem InitialBlock.namesHostsOnce_iff {nodes : List (Nodedata UInt32)} {master : Master}
    (initial : InitialBlock nodes master) (env : Environment) :
    Files.NamesHostsOnce (env.read master.ndList master.heap).entries ↔
      (nodes.map (·.ipaddress)).Nodup := by
  rcases initial with ⟨block, live, rfl, -, -⟩
  rw [env.read_of_live live, Files.namesHostsOnce_iff]

theorem accepted_of_append {earlier later : List Join}
    (accepted : ∀ request ∈ earlier ++ later, request.Accepted) :
    ∀ request ∈ earlier, request.Accepted :=
  fun request request_mem => accepted request (List.mem_append_left later request_mem)

theorem map_ipaddress_joins (me : Nodedata UInt32) (joins : List Join) :
    ([me] ++ joins.map Join.nodedata).map (·.ipaddress) =
      me.ipaddress :: joins.map (·.nodedata.ipaddress) := by
  simp

theorem oneEntryPerAddress_of_nodup {me : Nodedata UInt32} {start : Master} {joins : List Join}
    (initial : InitialBlock [me] start) (accepted : ∀ request ∈ joins, request.Accepted)
    (few : joins.length ≤ 15)
    (distinct : (me.ipaddress :: joins.map (·.nodedata.ipaddress)).Nodup) :
    OneEntryPerAddress start joins := by
  rintro earlier later rfl master ran env
  rw [List.length_append] at few
  have short : [me].length + earlier.length ≤ 16 := by
    rw [List.length_singleton]
    omega
  rcases runFrom_of_room start earlier initial short (accepted_of_append accepted) with
    ⟨final, ran', finalInitial⟩
  obtain rfl : final = master := Option.some.inj (ran'.symm.trans ran)
  rw [finalInitial.namesHostsOnce_iff env, map_ipaddress_joins]
  rw [List.map_append, ← List.cons_append] at distinct
  exact distinct.of_append_left

/-- A block whose two entries have one address. -/
def doubled : ListBlock where
  maxSize := 16
  currentSize := 2
  networkId := 0
  slots := [⟨1, 0, 4⟩, ⟨1, 0, 4⟩]

theorem oneEntryPerAddress_few {me : Nodedata UInt32} {start : Master} {joins : List Join}
    (initial : InitialBlock [me] start) (accepted : ∀ request ∈ joins, request.Accepted)
    (once : OneEntryPerAddress start joins) : joins.length ≤ 15 := by
  apply Nat.le_of_not_lt
  intro many
  rcases exists_dead_of_many initial accepted many with ⟨earlier, later, master, rfl, ran, dead⟩
  -- the pointer dangles, and the freed block may hold anything
  have read_eq : Environment.read ⟨none, doubled⟩ master.ndList master.heap = doubled := by
    simp [Environment.read, dead]
  have names := once earlier later rfl master ran ⟨none, doubled⟩
  rw [read_eq, Files.namesHostsOnce_iff] at names
  exact absurd names (by decide)

theorem nodup_of_oneEntryPerAddress {me : Nodedata UInt32} {start : Master} {joins : List Join}
    (initial : InitialBlock [me] start) (accepted : ∀ request ∈ joins, request.Accepted)
    (few : joins.length ≤ 15) (once : OneEntryPerAddress start joins) :
    (me.ipaddress :: joins.map (·.nodedata.ipaddress)).Nodup := by
  have short : [me].length + joins.length ≤ 16 := by
    rw [List.length_singleton]
    omega
  rcases runFrom_of_room start joins initial short accepted with ⟨final, ran, finalInitial⟩
  have names := once joins [] (List.append_nil joins).symm final ran ⟨none, doubled⟩
  rwa [finalInitial.namesHostsOnce_iff, map_ipaddress_joins] at names

/--
Every host is listed once in exactly the runs of at most fifteen joins in which no
node has the address of the master or of a node that joined before it.
-/
theorem oneEntryPerAddress_iff (garbage : Garbage) (me : Nodedata UInt32) (networkId : Int32)
    (start : Master) (joins : List Join)
    (started : startMaster (some garbage) me networkId = some start)
    (accepted : ∀ request ∈ joins, request.Accepted) :
    OneEntryPerAddress start joins ↔
      joins.length ≤ 15 ∧ (me.ipaddress :: joins.map (·.nodedata.ipaddress)).Nodup := by
  have initial := initialBlock_startMaster started
  constructor
  · intro once
    have few := oneEntryPerAddress_few initial accepted once
    exact ⟨few, nodup_of_oneEntryPerAddress initial accepted few once⟩
  · rintro ⟨few, distinct⟩
    exact oneEntryPerAddress_of_nodup initial accepted few distinct

theorem oneEntryPerAddress_iff_sampleJoins : ∃ start,
    startMaster (some zeros) ⟨1, 0, 4⟩ 1 = some start ∧
      (OneEntryPerAddress start (sampleJoins 3) ↔ (sampleJoins 3).length ≤ 15 ∧
        (1 :: (sampleJoins 3).map (·.nodedata.ipaddress)).Nodup) := by
  rcases exists_startMaster_zeros with ⟨start, started⟩
  exact ⟨start, started, oneEntryPerAddress_iff zeros ⟨1, 0, 4⟩ 1 start _ started
    (accepted_of_mem_sampleJoins (by decide))⟩

/-- The second join of a node that restarted with another core count. -/
def rejoin : Join where
  nodedata := ⟨2, 10, 8⟩
  env := ⟨some zeros, emptyList zeros⟩

/-- A node that joins twice is listed twice. -/
theorem not_forall_oneEntryPerAddress : ¬∀ (garbage : Garbage) (me : Nodedata UInt32)
    (networkId : Int32) (start : Master) (joins : List Join),
    startMaster (some garbage) me networkId = some start →
      (∀ request ∈ joins, request.Accepted) → OneEntryPerAddress start joins := by
  intro always
  rcases exists_startMaster_zeros with ⟨start, started⟩
  have accepted : ∀ request ∈ [sampleJoin 2, rejoin], request.Accepted := by
    intro request request_mem
    rw [List.mem_pair] at request_mem
    rcases request_mem with rfl | rfl <;> exact ⟨by decide, rfl⟩
  have once := always zeros _ 1 start [sampleJoin 2, rejoin] started accepted
  have distinct := nodup_of_oneEntryPerAddress (initialBlock_startMaster started) accepted
    (by decide) once
  exact absurd distinct (by decide)

end NodeinfoSystem.Collector
