import NodeinfoSystem.Files.Text
import NodeinfoSystem.Foundation.DottedQuad

/-!
# The address of the relay

`init_relay_server_ip` takes the address of the relay from the environment, if
`inet_pton` accepts what it finds there, and every request to the relay runs the
array through `inet_pton` again. Whether the second run succeeds depends on the copy
in between, which has room for fifteen characters.

The C library of Linux refuses leading zeros in an address, that of Android takes any
number of them; the program is built for both.
-/

namespace NodeinfoSystem.Collector

open Foundation Files

/-- `inet_pton` for `AF_INET`, with the bytes of the address in memory order. -/
def inetPton (leadingZeros : Bool) (text : Text) : Option UInt32 :=
  match DottedQuad.read leadingZeros text with
  | some [byte0, byte1, byte2, byte3] =>
      some (UInt32.ofNat (byte0 + 2 ^ 8 * byte1 + 2 ^ 16 * byte2 + 2 ^ 24 * byte3))
  | _ => none

def nul : Char := Char.ofNat 0

/-- `INET_ADDRSTRLEN`. -/
def inetAddrstrlen : ℕ := 16

/-- `strncpy`, which fills up with zeros. -/
def strncpy (dest src : Text) (count : ℕ) : Text :=
  (src ++ List.replicate (count - src.length) nul).take count ++ dest.drop count

/-- The text that begins at the start of an array. -/
def textOf (array : Text) : Text :=
  array.takeWhile fun char => char ≠ nul

/-- The initial value of `RELAY_SERVER_IP`. -/
def relayServerIp : Text :=
  strncpy (List.replicate inetAddrstrlen nul) "160.12.172.77".toList inetAddrstrlen

/-- `init_relay_server_ip`: the array `RELAY_SERVER_IP` after it. -/
def initRelayServerIp (leadingZeros : Bool) (env : Option Text) (array : Text) : Text :=
  match env with
  | none => array
  | some text =>
      if text ≠ [] ∧ (inetPton leadingZeros text).isSome then
        (strncpy array text (inetAddrstrlen - 1)).set (inetAddrstrlen - 1) nul
      else array

/-! ## `inet_pton` and `inet_ntop` -/

theorem inetNtop_eq_print (address : UInt32) : inetNtop address =
    DottedQuad.print [addressByte address 0, addressByte address 1, addressByte address 2]
      (addressByte address 3) := by
  simp [inetNtop, DottedQuad.print, DottedQuad.closed]

theorem addressByte_le (address : UInt32) (index : ℕ) : addressByte address index ≤ 255 := by
  have below : addressByte address index < 2 ^ 8 := Nat.mod_lt _ (by decide)
  omega

theorem ofNat_addressBytes (address : UInt32) :
    UInt32.ofNat (addressByte address 0 + 2 ^ 8 * addressByte address 1 +
      2 ^ 16 * addressByte address 2 + 2 ^ 24 * addressByte address 3) = address := by
  have below := address.toNat_lt
  rw [← UInt32.toNat_inj, UInt32.toNat_ofNat']
  simp only [addressByte]
  omega

theorem addressByte_ofNat {byte0 byte1 byte2 byte3 : ℕ} (small0 : byte0 ≤ 255)
    (small1 : byte1 ≤ 255) (small2 : byte2 ≤ 255) (small3 : byte3 ≤ 255) :
    let address := UInt32.ofNat (byte0 + 2 ^ 8 * byte1 + 2 ^ 16 * byte2 + 2 ^ 24 * byte3)
    addressByte address 0 = byte0 ∧ addressByte address 1 = byte1 ∧
      addressByte address 2 = byte2 ∧ addressByte address 3 = byte3 := by
  simp only [addressByte, UInt32.toNat_ofNat']
  omega

/-- Without leading zeros, `inet_pton` accepts what `inet_ntop` prints. -/
theorem inetPton_false_eq_some {text : Text} {address : UInt32} :
    inetPton false text = some address ↔ text = inetNtop address := by
  constructor
  · intro accepted
    simp only [inetPton] at accepted
    split at accepted
    · next byte0 byte1 byte2 byte3 read =>
        have read_eq : DottedQuad.read false text = some ([byte0, byte1, byte2] ++ [byte3]) := read
        rcases DottedQuad.read_false_eq_some.mp read_eq with ⟨-, small, text_eq⟩
        simp only [List.cons_append, List.nil_append, List.forall_mem_cons] at small
        rcases small with ⟨small0, small1, small2, small3, -⟩
        rcases addressByte_ofNat small0 small1 small2 small3 with ⟨eq0, eq1, eq2, eq3⟩
        obtain rfl := Option.some.inj accepted
        rw [inetNtop_eq_print, eq0, eq1, eq2, eq3, text_eq]
    · contradiction
  · rintro rfl
    have small : ∀ field ∈ [addressByte address 0, addressByte address 1, addressByte address 2] ++
        [addressByte address 3], field ≤ 255 := by
      simp [addressByte_le]
    have read := DottedQuad.read_false_eq_some.mpr ⟨rfl, small, inetNtop_eq_print address⟩
    simp only [inetPton, read, List.cons_append, List.nil_append, ofNat_addressBytes]

theorem length_inetNtop_le (address : UInt32) : (inetNtop address).length ≤ 15 := by
  have three (index : ℕ) : (Nat.toDigits 10 (addressByte address index)).length ≤ 3 := by
    rw [Nat.length_toDigits_le_iff (by decide) (by decide)]
    have small := addressByte_le address index
    omega
  have three0 := three 0
  have three1 := three 1
  have three2 := three 2
  have three3 := three 3
  simp only [inetNtop, List.length_append, List.length_cons]
  omega

theorem nul_notMem_inetNtop (address : UInt32) : nul ∉ inetNtop address :=
  not_mem_inetNtop (by decide) (by decide) address

/-! ## The copy -/

/-- The array after the copy holds the first fifteen characters. -/
theorem textOf_copied {array text : Text} (length_eq : array.length = inetAddrstrlen)
    (noNul : nul ∉ text) :
    textOf ((strncpy array text (inetAddrstrlen - 1)).set (inetAddrstrlen - 1) nul) =
      text.take 15 := by
  rcases List.length_eq_one_iff.mp (by simp [length_eq, inetAddrstrlen] :
    (array.drop 15).length = 1) with ⟨last, last_eq⟩
  have filled : (text ++ List.replicate (15 - text.length) nul).take 15 =
      text.take 15 ++ List.replicate (15 - text.length) nul := by
    rw [List.take_append, List.take_replicate, Nat.min_self]
  have ends : (strncpy array text 15).set 15 nul =
      text.take 15 ++ nul :: List.replicate (15 - text.length) nul := by
    have filled_length : (text.take 15 ++ List.replicate (15 - text.length) nul).length = 15 := by
      simp only [List.length_append, List.length_take, List.length_replicate]
      omega
    rw [strncpy, filled, last_eq, List.set_append_right _ _ filled_length.le, filled_length,
      Nat.sub_self, List.set_cons_zero, List.append_assoc, ← List.replicate_succ',
      List.replicate_succ]
  have inside : nul ∉ text.take 15 := fun nul_mem => noNul (List.mem_of_mem_take nul_mem)
  exact (congrArg textOf ends).trans (takeWhile_append_separator inside _)

theorem length_relayServerIp : relayServerIp.length = inetAddrstrlen := by decide

/-- The address that the program is built with. -/
def builtInRelay : UInt32 := 0x4DAC0CA0

theorem textOf_relayServerIp : textOf relayServerIp = inetNtop builtInRelay := by decide

/--
Where `inet_pton` refuses leading zeros, `RELAY_SERVER_IP` always names an address that
the requests to the relay accept: the one in the environment if that is the text of an
address, and the one the program is built with otherwise.
-/
theorem relayServerIp_valid (env : Option Text) : ∃ address,
    textOf (initRelayServerIp false env relayServerIp) = inetNtop address ∧
      inetPton false (textOf (initRelayServerIp false env relayServerIp)) = some address ∧
      (env = some (inetNtop address) ∨
        address = builtInRelay ∧ ∀ other, env ≠ some (inetNtop other)) := by
  have names : ∃ address, textOf (initRelayServerIp false env relayServerIp) = inetNtop address ∧
      (env = some (inetNtop address) ∨
        address = builtInRelay ∧ ∀ other, env ≠ some (inetNtop other)) := by
    cases env with
    | none => exact ⟨builtInRelay, textOf_relayServerIp, Or.inr ⟨rfl, by simp⟩⟩
    | some text =>
        simp only [initRelayServerIp]
        split
        · next accepted =>
            rcases Option.isSome_iff_exists.mp accepted.2 with ⟨address, address_eq⟩
            obtain rfl := inetPton_false_eq_some.mp address_eq
            refine ⟨address, ?_, Or.inl rfl⟩
            rw [textOf_copied length_relayServerIp (nul_notMem_inetNtop address),
              List.take_of_length_le (length_inetNtop_le address)]
        · next rejected =>
            refine ⟨builtInRelay, textOf_relayServerIp, Or.inr ⟨rfl, ?_⟩⟩
            rintro other ⟨⟩
            have notEmpty : inetNtop other ≠ [] := by simp [inetNtop]
            exact rejected ⟨notEmpty, by rw [inetPton_false_eq_some.mpr rfl]; rfl⟩
  rcases names with ⟨address, text_eq, origin⟩
  exact ⟨address, text_eq, inetPton_false_eq_some.mpr text_eq, origin⟩

/-! ## Leading zeros -/

theorem nul_notMem_of_accepted {leadingZeros : Bool} {text : Text} {address : UInt32}
    (accepted : inetPton leadingZeros text = some address) : nul ∉ text := by
  simp only [inetPton] at accepted
  split at accepted
  · next byte0 byte1 byte2 byte3 read =>
      intro nul_mem
      rcases DottedQuad.isDigit_or_dot_of_read read nul nul_mem with digit | dot
      · revert digit
        decide
      · revert dot
        decide
  · contradiction

/-- Whatever `inet_pton` accepts, the copy has its first fifteen characters and no others. -/
theorem textOf_initRelayServerIp {leadingZeros : Bool} {text : Text} {address : UInt32}
    (accepted : inetPton leadingZeros text = some address) :
    textOf (initRelayServerIp leadingZeros (some text) relayServerIp) = text.take 15 := by
  have notEmpty : text ≠ [] := by
    rintro rfl
    simp [inetPton, DottedQuad.read, DottedQuad.Scan.start, DottedQuad.Scan.octets] at accepted
  rw [initRelayServerIp, if_pos ⟨notEmpty, Option.isSome_of_eq_some accepted⟩]
  exact textOf_copied length_relayServerIp (nul_notMem_of_accepted accepted)

/-- The built-in address with leading zeros, in sixteen characters. -/
def paddedRelay : Text := "000160.12.172.77".toList

/-- Where leading zeros are accepted, a longer text is cut, and may name another address. -/
theorem not_forall_relayServerIp_read : ¬∀ text address, inetPton true text = some address →
    inetPton true (textOf (initRelayServerIp true (some text) relayServerIp)) = some address := by
  intro read
  have other : inetPton true (paddedRelay.take 15) ≠ some builtInRelay := by decide
  have accepted : inetPton true paddedRelay = some builtInRelay := by decide
  rw [← textOf_initRelayServerIp accepted] at other
  exact other (read paddedRelay builtInRelay accepted)

end NodeinfoSystem.Collector
