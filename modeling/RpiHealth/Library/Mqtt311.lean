import RpiHealth.Library.Text

/-! The MQTT 3.1.1 wire format of CONNECT and PUBLISH, and how long the packets are. -/
namespace Mqtt311

abbrev Bytes := List UInt8

def utf8 (s : String) : Bytes := s.toUTF8.data.toList

def integer16 (n : Nat) : Bytes := [UInt8.ofNat (n / 256), UInt8.ofNat n]

/-- A text behind its length. -/
def field (s : String) : Bytes := integer16 (Text.size s) ++ utf8 s

/-- Seven bits a byte, lowest first; all bytes but the last have the high bit set. -/
def remainingLength (n : Nat) : Bytes :=
  if n < 128 then [UInt8.ofNat n]
  else UInt8.ofNat (n % 128 + 128) :: remainingLength (n / 128)
termination_by n
decreasing_by omega

def packet (header : UInt8) (body : Bytes) : Bytes :=
  header :: (remainingLength body.length ++ body)

def bit (b : Bool) (weight : UInt8) : UInt8 := if b then weight else 0

/-- A client with a last will and a login. -/
structure Connect where
  clientId : String
  keepAlive : Nat
  cleanSession : Bool
  willTopic : String
  willMessage : String
  willQos : UInt8
  willRetain : Bool
  username : String
  password : String

namespace Connect

def flags (c : Connect) : UInt8 :=
  0x80 + 0x40 + bit c.willRetain 0x20 + c.willQos * 8 + 0x04 + bit c.cleanSession 0x02

def body (c : Connect) : Bytes :=
  field "MQTT" ++ [4, c.flags] ++ integer16 c.keepAlive ++ field c.clientId ++
    field c.willTopic ++ field c.willMessage ++ field c.username ++ field c.password

def encode (c : Connect) : Bytes := packet 0x10 c.body

end Connect

structure Publish where
  topic : String
  qos : UInt8
  retain : Bool
  packetId : UInt16
  payload : String

namespace Publish

/-- Only an acknowledged publish carries its identifier. -/
def body (p : Publish) : Bytes :=
  field p.topic ++ (if p.qos = 0 then [] else integer16 p.packetId.toNat) ++ utf8 p.payload

def encode (p : Publish) : Bytes := packet (0x30 + p.qos * 2 + bit p.retain 0x01) p.body

end Publish

@[simp] theorem length_utf8 (s : String) : (utf8 s).length = Text.size s := rfl

@[simp] theorem length_integer16 (n : Nat) : (integer16 n).length = 2 := rfl

@[simp] theorem length_field (s : String) : (field s).length = 2 + Text.size s := by
  simp [field]

theorem length_connect (c : Connect) :
    c.body.length = 20 + Text.size c.clientId + Text.size c.willTopic +
      Text.size c.willMessage + Text.size c.username + Text.size c.password := by
  have protocol : (field "MQTT").length = 6 := by decide
  simp only [Connect.body, List.length_append, protocol, length_integer16, length_field,
    List.length_cons, List.length_nil]
  omega

theorem length_publish (p : Publish) (acknowledged : p.qos ≠ 0) :
    p.body.length = 4 + Text.size p.topic + Text.size p.payload := by
  simp only [Publish.body, acknowledged, if_false, List.length_append, length_field,
    length_integer16, length_utf8]
  omega

theorem remainingLength_le (k n : Nat) (small : n < 128 ^ (k + 1)) :
    (remainingLength n).length ≤ k + 1 := by
  induction k generalizing n with
  | zero =>
    rw [remainingLength, if_pos (by simpa using small)]
    exact Nat.le_refl 1
  | succ k ih =>
    rw [remainingLength]
    split
    · simp
    · have shorter : n / 128 < 128 ^ (k + 1) := by
        rw [Nat.div_lt_iff_lt_mul (by decide)]
        exact small
      simpa using ih (n / 128) shorter

theorem remainingLength_ge (k n : Nat) (large : 128 ^ k ≤ n) :
    k < (remainingLength n).length := by
  induction k generalizing n with
  | zero =>
    rw [remainingLength]
    split <;> simp
  | succ k ih =>
    have power : 128 ≤ 128 ^ (k + 1) := Nat.le_self_pow (by omega) 128
    rw [remainingLength, if_neg (by omega)]
    have rest : 128 ^ k ≤ n / 128 := by
      rw [Nat.le_div_iff_mul_le (by decide)]
      exact large
    simpa using ih (n / 128) rest

/-- Whether a packet fits depends on its body alone: here the length takes three bytes. -/
theorem packet_fits (header : UInt8) (body : Bytes) (limit : Nat)
    (least : 128 ^ 2 + 4 ≤ limit) (most : limit ≤ 128 ^ 3) :
    (packet header body).length ≤ limit ↔ body.length + 4 ≤ limit := by
  simp only [packet, List.length_cons, List.length_append]
  constructor
  · intro fits
    by_contra long
    have := remainingLength_ge 2 body.length (by omega)
    omega
  · intro fits
    have := remainingLength_le 2 body.length (by omega)
    omega

end Mqtt311
