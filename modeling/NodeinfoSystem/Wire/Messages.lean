import NodeinfoSystem.Wire.Layout

/-!
# Control messages

A control message is the text of a string literal without its final zero byte. A
receiver ends what arrived with a zero byte and compares it with `strcmp`, so it
looks at the bytes before the first zero. Network ids are sent in network byte
order.
-/

namespace NodeinfoSystem.Wire

/-- The bytes of a string literal. -/
def ascii (text : String) : List UInt8 :=
  text.toList.map fun char => UInt8.ofNat char.toNat

def helloMasterMsg : List UInt8 := ascii "Hello_master!"

def welcomeNodeMsg : List UInt8 := ascii "Welcome_node!"

def byeMasterMsg : List UInt8 := ascii "Bye_master"

def byeNodeMsg : List UInt8 := ascii "Bye_node"

def readySendNodedataListMsg : List UInt8 := ascii "Ready_to_send_nodedata_list"

def readyRecvNodedataListMsg : List UInt8 := ascii "Ready_to_recv_nodedata_list"

def readySendDbMsg : List UInt8 := ascii "Ready_to_send_DB"

def readyRecvDbMsg : List UInt8 := ascii "Ready_to_recv_DB"

def helloRelayServerMsg : List UInt8 := ascii "Hello_relay_server!"

def giveMeDbMsg : List UInt8 := ascii "Give_me_db"

/-- The string in a buffer that has been ended with a zero byte. -/
def cString (bytes : List UInt8) : List UInt8 :=
  bytes.takeWhile fun byte => byte ≠ 0

/-- What one `recvfrom` on a socket with a receive timeout meets. -/
inductive Reception where
  | datagram (datagram : Datagram)
  | timeout
  | error

def Reception.received : Reception → Option Datagram
  | .datagram arrived => some arrived
  | _ => none

/--
`wrapped_recvfrom` with a buffer of `size` bytes: the returned code, and the
bytes stored. What does not fit the buffer is lost.
-/
def wrappedRecvfrom (size : ℕ) : Reception → ℤ × List UInt8
  | .datagram datagram => ((datagram.bytes.take size).length, datagram.bytes.take size)
  | .timeout => (isTimeout.toInt, [])
  | .error => (-1, [])

theorem wrappedRecvfrom_datagram {datagram : Datagram} {bytes : List UInt8} {size : ℕ}
    (bytes_eq : datagram.bytes = bytes) (fits : bytes.length ≤ size) :
    wrappedRecvfrom size (.datagram datagram) = ((bytes.length : ℤ), bytes) := by
  rw [wrappedRecvfrom, bytes_eq, List.take_of_length_le fits]

/-! ## Network byte order -/

/-- The word with its four bytes in the opposite order. -/
def htonl (word : UInt32) : UInt32 :=
  UInt32.ofNat (2 ^ 24 * (word.toNat % 2 ^ 8) + 2 ^ 16 * (word.toNat / 2 ^ 8 % 2 ^ 8) +
    2 ^ 8 * (word.toNat / 2 ^ 16 % 2 ^ 8) + word.toNat / 2 ^ 24)

def ntohl : UInt32 → UInt32 := htonl

theorem toNat_htonl {word : UInt32} {b0 b1 b2 b3 : ℕ} (b0_lt : b0 < 2 ^ 8) (b1_lt : b1 < 2 ^ 8)
    (b2_lt : b2 < 2 ^ 8) (b3_lt : b3 < 2 ^ 8)
    (word_eq : word.toNat = b0 + 2 ^ 8 * b1 + 2 ^ 16 * b2 + 2 ^ 24 * b3) :
    (htonl word).toNat = b3 + 2 ^ 8 * b2 + 2 ^ 16 * b1 + 2 ^ 24 * b0 := by
  have first : word.toNat % 2 ^ 8 = b0 := by omega
  have second : word.toNat / 2 ^ 8 % 2 ^ 8 = b1 := by omega
  have third : word.toNat / 2 ^ 16 % 2 ^ 8 = b2 := by omega
  have fourth : word.toNat / 2 ^ 24 = b3 := by omega
  rw [htonl, UInt32.toNat_ofNat', first, second, third, fourth, Nat.mod_eq_of_lt (by omega)]
  omega

@[simp]
theorem ntohl_htonl (word : UInt32) : ntohl (htonl word) = word := by
  have bound := word.toNat_lt
  have bytes : word.toNat = word.toNat % 2 ^ 8 + 2 ^ 8 * (word.toNat / 2 ^ 8 % 2 ^ 8) +
      2 ^ 16 * (word.toNat / 2 ^ 16 % 2 ^ 8) + 2 ^ 24 * (word.toNat / 2 ^ 24) := by
    omega
  have swapped := toNat_htonl (by omega) (by omega) (by omega) (by omega) bytes
  have back := toNat_htonl (by omega) (by omega) (by omega) (by omega) swapped
  rw [← UInt32.toNat_inj, ntohl, back, ← bytes]

example : htonl 1 = 0x01000000 := by decide

end NodeinfoSystem.Wire
