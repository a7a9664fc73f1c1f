import NodeinfoSystem.Database.Merge

/-!
# Updates of different networks commute

Leaving the ports aside, an update turns the data of the database into its
survivors followed by the newcomers of the list. Which entries survive and which
nodes are new depends on the entries of the list's own network only, so two updates
of different networks do the same work in either order. Swap-removal and the two
sets of ports show in the order of the entries and in their ports.
-/

namespace NodeinfoSystem.Database

/-- An entry without its ports. -/
structure Datum where
  networkId : Int32
  ipaddress : UInt32
  userid : Int32
  cpuCoreNum : Int32
  deriving DecidableEq

def datum (element : NodeinfoDatabaseElement) : Datum where
  networkId := element.networkId
  ipaddress := element.ipaddress
  userid := element.userid
  cpuCoreNum := element.cpuCoreNum

/-- What is stored for a node of a list. -/
def nodeDatum (networkId : Int32) (node : Nodedata Int32) : Datum where
  networkId := networkId
  ipaddress := storedAddress node
  userid := node.userid
  cpuCoreNum := node.cpuCoreNum

/-! ## The merge of a list -/

/-- The addresses stored under a network. -/
def knownAddresses (networkId : Int32) (data : List Datum) : List UInt32 :=
  (data.filter fun known => known.networkId == networkId).map Datum.ipaddress

/-- The data of the nodes whose addresses are not known yet, repetitions left out. -/
def newcomers (networkId : Int32) : List UInt32 → List (Nodedata Int32) → List Datum
  | _, [] => []
  | known, node :: nodes =>
      if storedAddress node ∈ known then newcomers networkId known nodes
      else nodeDatum networkId node :: newcomers networkId (storedAddress node :: known) nodes

/-- The data that the removal loop keeps. -/
def survives (list : NodedataList Int32) (known : Datum) : Bool :=
  !(known.networkId == list.networkId && !ipPresentInList list known.ipaddress)

/-- The data after an update in which nothing fails. -/
def mergeData (list : NodedataList Int32) (data : List Datum) : List Datum :=
  data.filter (survives list) ++
    newcomers list.networkId (knownAddresses list.networkId (data.filter (survives list)))
      list.entries

theorem mem_knownAddresses {networkId : Int32} {data : List Datum} {ipaddr : UInt32} :
    ipaddr ∈ knownAddresses networkId data ↔
      ∃ known ∈ data, known.networkId = networkId ∧ known.ipaddress = ipaddr := by
  simp only [knownAddresses, List.mem_map, List.mem_filter, beq_iff_eq, and_assoc]

theorem newcomers_congr (networkId : Int32) (nodes : List (Nodedata Int32))
    {known other : List UInt32} (same : ∀ ipaddr, ipaddr ∈ known ↔ ipaddr ∈ other) :
    newcomers networkId known nodes = newcomers networkId other nodes := by
  induction nodes generalizing known other with
  | nil => rfl
  | cons node nodes ih =>
      have extended : ∀ ipaddr, ipaddr ∈ storedAddress node :: known ↔
          ipaddr ∈ storedAddress node :: other := by
        intro ipaddr
        rw [List.mem_cons, List.mem_cons, same]
      rw [newcomers, newcomers, ih same, ih extended]
      simp only [same]

theorem networkId_of_mem_newcomers {networkId : Int32} {known : List UInt32}
    {nodes : List (Nodedata Int32)} {added : Datum}
    (added_mem : added ∈ newcomers networkId known nodes) : added.networkId = networkId := by
  induction nodes generalizing known with
  | nil => simp [newcomers] at added_mem
  | cons node nodes ih =>
      rw [newcomers] at added_mem
      split at added_mem
      · exact ih added_mem
      · rcases List.mem_cons.mp added_mem with rfl | later
        · rfl
        · exact ih later

theorem mergeData_perm (list : NodedataList Int32) {data other : List Datum}
    (perm : data.Perm other) : (mergeData list data).Perm (mergeData list other) := by
  have kept := perm.filter (survives list)
  have same : newcomers list.networkId
        (knownAddresses list.networkId (data.filter (survives list))) list.entries =
      newcomers list.networkId
        (knownAddresses list.networkId (other.filter (survives list))) list.entries := by
    apply newcomers_congr
    intro ipaddr
    rw [mem_knownAddresses, mem_knownAddresses]
    simp only [kept.mem_iff]
  rw [mergeData, mergeData, same]
  exact kept.append_right _

theorem survives_of_networkId_ne {list : NodedataList Int32} {known : Datum}
    (other : known.networkId ≠ list.networkId) : survives list known = true := by
  simp [survives, other]

section Commute

variable {first second : NodedataList Int32}

/-- The newcomers of another network survive, and do not make a node known. -/
theorem mergeData_mergeData (different : first.networkId ≠ second.networkId) (data : List Datum) :
    mergeData second (mergeData first data) =
      (data.filter (survives first)).filter (survives second) ++
        newcomers first.networkId
          (knownAddresses first.networkId (data.filter (survives first))) first.entries ++
        newcomers second.networkId
          (knownAddresses second.networkId (data.filter (survives second))) second.entries := by
  have stays : (newcomers first.networkId
        (knownAddresses first.networkId (data.filter (survives first))) first.entries).filter
        (survives second) =
      newcomers first.networkId
        (knownAddresses first.networkId (data.filter (survives first))) first.entries := by
    rw [List.filter_eq_self]
    intro added added_mem
    apply survives_of_networkId_ne
    rw [networkId_of_mem_newcomers added_mem]
    exact different
  rw [mergeData]
  nth_rewrite 1 [mergeData]
  rw [List.filter_append, stays]
  congr 1
  apply newcomers_congr
  intro ipaddr
  rw [mem_knownAddresses, mem_knownAddresses]
  constructor
  · rintro ⟨known, known_mem, sameNetwork, sameAddress⟩
    rw [mergeData, List.mem_filter, List.mem_append] at known_mem
    rcases known_mem with ⟨old | new, kept⟩
    · have survives := List.mem_filter.mpr ⟨(List.mem_filter.mp old).1, kept⟩
      exact ⟨known, survives, sameNetwork, sameAddress⟩
    · rw [networkId_of_mem_newcomers new] at sameNetwork
      exact absurd sameNetwork different
  · rintro ⟨known, known_mem, sameNetwork, sameAddress⟩
    rw [List.mem_filter] at known_mem
    refine ⟨known, ?_, sameNetwork, sameAddress⟩
    have survivesFirst : survives first known = true := by
      apply survives_of_networkId_ne
      rw [sameNetwork]
      exact different.symm
    rw [mergeData, List.mem_filter, List.mem_append, List.mem_filter]
    exact ⟨Or.inl ⟨known_mem.1, survivesFirst⟩, known_mem.2⟩

theorem mergeData_comm (different : first.networkId ≠ second.networkId) (data : List Datum) :
    (mergeData second (mergeData first data)).Perm (mergeData first (mergeData second data)) := by
  rw [mergeData_mergeData different, mergeData_mergeData different.symm, List.filter_comm]
  rw [List.append_assoc, List.append_assoc]
  exact List.Perm.append_left _ List.perm_append_comm

end Commute

/-! ## The code computes the merge -/

def State.data (state : State) : List Datum :=
  state.entries.map datum

theorem existsInDb_iff_knownAddresses {state : State} {networkId : Int32} {ipaddr : UInt32} :
    existsInDb state networkId ipaddr = true ↔
      ipaddr ∈ knownAddresses networkId state.data := by
  rw [existsInDb_eq_true, mem_knownAddresses]
  simp [State.data, datum]

theorem data_of_addNodes {os : Os} {networkId : Int32} {nodes : List (Nodedata Int32)}
    {before after : State} (ran : addNodes os networkId nodes before = some after)
    (granted : ∀ allocation, os.malloc allocation = true)
    (found : after.failedSearches = before.failedSearches) :
    after.data =
      before.data ++ newcomers networkId (knownAddresses networkId before.data) nodes := by
  induction nodes generalizing before with
  | nil =>
      rw [← Option.some.inj ran, newcomers, List.append_nil]
  | cons node nodes ih =>
      rcases addNodes_cons_cases ran with ⟨middle, iterated, rest⟩ | iterated
      · have rest_le := addNodes_failedSearches_le rest
        cases addNode_effect iterated with
        | present present =>
            rw [newcomers, if_pos (existsInDb_iff_knownAddresses.mp present)]
            exact ih rest found
        | noPort _ failed => omega
        | @added _ element insertable entries_eq failedSearches_eq =>
            have datum_eq : datum element = nodeDatum networkId node := by
              rw [datum, nodeDatum, insertable.networkId_eq, insertable.ipaddress_eq,
                insertable.userid_eq, insertable.cpuCoreNum_eq]
            have data_eq : middle.data = before.data ++ [nodeDatum networkId node] := by
              rw [State.data, entries_eq, List.map_append, List.map_singleton, datum_eq]
              rfl
            have absent : storedAddress node ∉ knownAddresses networkId before.data := by
              rw [mem_knownAddresses]
              rintro ⟨known, known_mem, sameNetwork, sameAddress⟩
              rcases List.mem_map.mp known_mem with ⟨other, other_mem, rfl⟩
              exact insertable.newKey other other_mem sameNetwork
                (sameAddress.trans insertable.ipaddress_eq.symm)
            have extended : ∀ ipaddr, ipaddr ∈ knownAddresses networkId middle.data ↔
                ipaddr ∈ storedAddress node :: knownAddresses networkId before.data := by
              intro ipaddr
              rw [data_eq, knownAddresses, List.filter_append, List.map_append,
                List.mem_append, List.mem_cons, or_comm]
              simp [knownAddresses, nodeDatum]
            rw [newcomers, if_neg absent, ih rest (by omega),
              newcomers_congr networkId nodes extended, data_eq, List.append_assoc,
              List.singleton_append]
      · exact absurd iterated (addNode_ne_leave granted)

theorem data_of_step {call : Call} {before after : State}
    (stepped : manager.step before call = some after)
    (granted : ∀ allocation, call.os.malloc allocation = true)
    (found : after.failedSearches = before.failedSearches) :
    after.data.Perm (mergeData call.list before.data) := by
  rcases manager_step_eq_some.mp stepped with ⟨result, ran⟩
  rcases updateNodeinfoDatabase_cases ran with
    ⟨-, allocation, refused⟩ | ⟨start, final, start_eq, start_failed, added, after_eq, after_failed⟩
  · simp [granted allocation] at refused
  · have start_perm : start.data.Perm (before.data.filter (survives call.list)) := by
      rw [State.data, start_eq, State.data, List.filter_map]
      exact (Foundation.removeWhere_perm_filter _ _).map datum
    have merged := data_of_addNodes added granted (by omega)
    have same : newcomers call.list.networkId (knownAddresses call.list.networkId start.data)
          call.list.entries =
        newcomers call.list.networkId (knownAddresses call.list.networkId
          (before.data.filter (survives call.list))) call.list.entries := by
      apply newcomers_congr
      intro ipaddr
      rw [mem_knownAddresses, mem_knownAddresses]
      simp only [start_perm.mem_iff]
    have after_data : after.data = final.data := by rw [State.data, after_eq, State.data]
    rw [after_data, merged, same, mergeData]
    exact start_perm.append_right _

/-- Two updates one after the other in which nothing fails. -/
structure QuietUpdates (start : State) (first second : Call) (final : State) : Prop where
  granted : ∀ call ∈ [first, second], ∀ allocation, call.os.malloc allocation = true
  ran : manager.runFrom start [first, second] = some final
  found : final.failedSearches = start.failedSearches

theorem step_failedSearches_le {call : Call} {before after : State}
    (stepped : manager.step before call = some after) :
    before.failedSearches ≤ after.failedSearches ∨
      ∃ allocation, call.os.malloc allocation = false := by
  rcases manager_step_eq_some.mp stepped with ⟨result, ran⟩
  rcases updateNodeinfoDatabase_cases ran with
    ⟨-, refused⟩ | ⟨start, final, -, start_failed, added, -, after_failed⟩
  · exact Or.inr refused
  · have searched := addNodes_failedSearches_le added
    left
    omega

theorem QuietUpdates.data {start final : State} {first second : Call}
    (quiet : QuietUpdates start first second final) :
    final.data.Perm (mergeData second.list (mergeData first.list start.data)) := by
  rcases (manager.runFrom_cons_eq_some).mp quiet.ran with ⟨middle, firstStep, rest⟩
  rcases (manager.runFrom_cons_eq_some).mp rest with ⟨last, secondStep, ended⟩
  obtain rfl : last = final := Option.some.inj ended
  have firstGranted := quiet.granted first (by simp)
  have secondGranted := quiet.granted second (by simp)
  have found := quiet.found
  have first_le : start.failedSearches ≤ middle.failedSearches := by
    rcases step_failedSearches_le firstStep with le | ⟨allocation, refused⟩
    · exact le
    · simp [firstGranted allocation] at refused
  have second_le : middle.failedSearches ≤ last.failedSearches := by
    rcases step_failedSearches_le secondStep with le | ⟨allocation, refused⟩
    · exact le
    · simp [secondGranted allocation] at refused
  have firstMerged := data_of_step firstStep firstGranted (by omega)
  have secondMerged := data_of_step secondStep secondGranted (by omega)
  exact secondMerged.trans (mergeData_perm _ firstMerged)

/--
Updates of different networks commute: from any database, in either order, and
whatever the operating system answers to the port searches, the database ends with
the same data.
-/
theorem updates_commute (state : State) (firstA secondB firstB secondA : Call)
    (afterAB afterBA : State) (sameA : firstA.list = secondA.list)
    (sameB : firstB.list = secondB.list)
    (different : firstA.list.networkId ≠ firstB.list.networkId)
    (quietAB : QuietUpdates state firstA secondB afterAB)
    (quietBA : QuietUpdates state firstB secondA afterBA) :
    afterAB.data.Perm afterBA.data := by
  have throughA := quietAB.data
  have throughB := quietBA.data
  rw [← sameB] at throughA
  rw [← sameA] at throughB
  exact throughA.trans ((mergeData_comm different state.data).trans throughB.symm)

/-- An operating system that refuses the first port it is asked for. -/
def choosyOs : Os :=
  { grantingOs with isPortAvailable := fun probe _ => decide (probe ≠ 0) }

/-- Two networks report one node each, in either order. -/
theorem updates_commute_singletonList : ∃ afterAB afterBA,
    manager.run [⟨grantingOs, singletonList 1 21⟩, ⟨grantingOs, singletonList 2 22⟩] =
      some afterAB ∧
    manager.run [⟨choosyOs, singletonList 2 22⟩, ⟨choosyOs, singletonList 1 21⟩] =
      some afterBA ∧
    afterAB.entries = [newElement 1 ⟨21, 7, 4⟩ 10000 10001, newElement 2 ⟨22, 7, 4⟩ 10002 10003] ∧
    afterBA.entries = [newElement 2 ⟨22, 7, 4⟩ 10001 10002, newElement 1 ⟨21, 7, 4⟩ 10003 10004] ∧
    afterAB.data.Perm afterBA.data := by
  have resultAB : (manager.run [⟨grantingOs, singletonList 1 21⟩,
      ⟨grantingOs, singletonList 2 22⟩]).map (fun state => (state.entries, state.failedSearches)) =
      some ([newElement 1 ⟨21, 7, 4⟩ 10000 10001, newElement 2 ⟨22, 7, 4⟩ 10002 10003], 0) := by
    decide
  have resultBA : (manager.run [⟨choosyOs, singletonList 2 22⟩,
      ⟨choosyOs, singletonList 1 21⟩]).map (fun state => (state.entries, state.failedSearches)) =
      some ([newElement 2 ⟨22, 7, 4⟩ 10001 10002, newElement 1 ⟨21, 7, 4⟩ 10003 10004], 0) := by
    decide
  rw [Option.map_eq_some_iff] at resultAB resultBA
  rcases resultAB with ⟨afterAB, ranAB, endAB⟩
  rcases resultBA with ⟨afterBA, ranBA, endBA⟩
  rw [Prod.mk.injEq] at endAB endBA
  refine ⟨afterAB, afterBA, ranAB, ranBA, endAB.1, endBA.1, ?_⟩
  apply updates_commute State.initial ⟨grantingOs, singletonList 1 21⟩
    ⟨grantingOs, singletonList 2 22⟩ ⟨choosyOs, singletonList 2 22⟩ ⟨choosyOs, singletonList 1 21⟩
    afterAB afterBA rfl rfl (by decide)
  · exact ⟨by simp [grantingOs], ranAB, endAB.2⟩
  · exact ⟨by simp [choosyOs, grantingOs], ranBA, endBA.2⟩

end NodeinfoSystem.Database
