import NodeinfoSystem.Collector.Userid

/-!
# The node's own data

`get_my_nodedata`: the address of the first network interface that is not the
loopback, or else the source address of a route to the outside; the user id in the
name of the user; and the number of processors. Each part keeps its initial value
when it cannot be found out.
-/

namespace NodeinfoSystem.Collector

open Files

/-- A `struct sockaddr` behind `ifa_addr`: whether its family is `AF_INET`, and its address. -/
structure InterfaceAddress where
  isInet : Bool
  sAddr : UInt32

/-- An entry of the list that `getifaddrs` returns. -/
structure Interface where
  ifaAddr : Option InterfaceAddress
  loopback : Bool

/-- The address that the loop over the interfaces stops at, if it stops at this one. -/
def Interface.address (interface : Interface) : Option UInt32 :=
  match interface.ifaAddr with
  | none => none
  | some address =>
      if address.isInet && !interface.loopback then some address.sAddr else none

/-- What one call of `get_my_nodedata` meets. -/
structure HostAnswers where
  getifaddrs : Option (List Interface)
  socket : Bool
  connect : Bool
  getsockname : Option UInt32
  /-- `pw_name`, or `none` when `getpwuid` returns `NULL`. -/
  pwName : Option Text
  cores : ℤ

def HostAnswers.interfaceAddress (answers : HostAnswers) : UInt32 :=
  match answers.getifaddrs with
  | none => 0
  | some interfaces => (interfaces.findSome? Interface.address).getD 0

def HostAnswers.routeAddress (answers : HostAnswers) : UInt32 :=
  if answers.socket && answers.connect then answers.getsockname.getD 0 else 0

/-- `get_my_nodedata`; `none` where the parser of the user name has undefined behaviour. -/
def getMyNodedata (long : LongType) (answers : HostAnswers) : Option (Nodedata UInt32) :=
  match extractNumericUserid long answers.pwName with
  | none => none
  | some parsed =>
      some {
        ipaddress :=
          if answers.interfaceAddress = 0 then answers.routeAddress else answers.interfaceAddress
        userid := if 0 ≤ parsed.toInt then parsed else -1
        cpuCoreNum := if 0 < answers.cores then Int32.ofInt answers.cores else 0 }

theorem userid_getMyNodedata {long : LongType} {answers : HostAnswers} {node : Nodedata UInt32}
    (returned : getMyNodedata long answers = some node) :
    ∃ parsed, extractNumericUserid long answers.pwName = some parsed ∧
      node.userid = if 0 ≤ parsed.toInt then parsed else -1 := by
  rw [getMyNodedata] at returned
  split at returned
  · contradiction
  · next parsed extracted =>
      obtain rfl := Option.some.inj returned
      exact ⟨parsed, extracted, rfl⟩

/-- On Android the name under which a node appears in the lists is that of its user. -/
theorem name_of_getMyNodedata {long : LongType} {answers : HostAnswers} {node : Nodedata UInt32}
    {userid : Int32} (nonneg : 0 ≤ userid.toInt) (named : answers.pwName = some (username userid))
    (returned : getMyNodedata long answers = some node) :
    node.userid = userid ∧ formatUsernameFromUserid node.userid 32 = username userid := by
  rcases userid_getMyNodedata returned with ⟨parsed, extracted, userid_eq⟩
  rw [named, extractNumericUserid_username, if_neg (by omega)] at extracted
  obtain rfl := Option.some.inj extracted
  rw [if_pos nonneg] at userid_eq
  rw [userid_eq]
  exact ⟨rfl, formatUsernameFromUserid_eq userid⟩

/-- Any other user name leads to its number, as long as that survives the narrowing. -/
theorem userid_of_name {answers : HostAnswers} {node : Nodedata UInt32} {name : Text}
    (named : answers.pwName = some name) (narrows : NarrowsWell (numberIn name))
    (returned : getMyNodedata long64 answers = some node) :
    node.userid = -1 ∨ node.userid.toInt = numberIn name := by
  rcases userid_getMyNodedata returned with ⟨parsed, extracted, userid_eq⟩
  rw [named] at extracted
  have right := ((neverWrong_of_returned extracted).mp ((neverWrong_iff name).mpr narrows)).2
  by_cases nonneg : 0 ≤ parsed.toInt
  · rw [if_pos nonneg] at userid_eq
    rw [userid_eq]
    exact Or.inr (right nonneg)
  · rw [if_neg nonneg] at userid_eq
    exact Or.inl userid_eq

end NodeinfoSystem.Collector
