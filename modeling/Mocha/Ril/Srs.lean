import Mocha.Lib.Bytes
import Mocha.Lib.Framing

/-! The SRS socket (`srs-client.c`, `mocha-ril/srs.c`): how a client writes a message to the stream,
and how the server takes what one `read()` returns for one message. Allocations are taken to
succeed, and the socket to be readable when the server reads from it. -/
namespace Mocha.Ril
open Mocha.Lib

/-- `SRS_DATA_MAX_SIZE` -/
def srsDataMaxSize : ℕ := 0x1000

/-- `struct srs_header`, packed. -/
@[ext]
structure SrsHeader where
  length : UInt32
  group : UInt8
  index : UInt8
deriving DecidableEq

/-- `sizeof(struct srs_header)` -/
def srsHeaderSize : ℕ := 6

def SrsHeader.toBytes (h : SrsHeader) : List UInt8 := leBytes 4 h.length.toNat ++ [h.group, h.index]

def SrsHeader.ofBytes (l : List UInt8) : SrsHeader where
  length := UInt32.ofNat (wordAt 4 0 l)
  group := l.getD 4 0
  index := l.getD 5 0

/-- `struct srs_message`; `none` for a null pointer. -/
structure SrsMessage where
  command : UInt16
  length : Int32
  data : Option (List UInt8)
deriving DecidableEq

def srsCommand (h : SrsHeader) : UInt16 := h.group.toUInt16 <<< 8 ||| h.index.toUInt16
def srsGroup (command : UInt16) : UInt8 := (command >>> 8).toUInt8
def srsIndex (command : UInt16) : UInt8 := (command &&& 0xff).toUInt8

/-- The bytes that `srs_client_send_message` writes. -/
def srsClientSendMessage (m : SrsMessage) : List UInt8 :=
  let header : SrsHeader :=
    ⟨m.length.toUInt32 + srsHeaderSize.toUInt32, srsGroup m.command, srsIndex m.command⟩
  let payload : List UInt8 :=
    match m.data with
    | some data => if 0 < m.length then data.take m.length.toNatClampNeg else []
    | none => []
  let bytes := header.toBytes ++ payload
  bytes ++ List.replicate (header.length.toNat - bytes.length) 0

/-- The byte at a position of the buffer that a chunk has been read into; `heap` is what lies behind
the buffer. -/
def recvBuffer (heap : ℕ → UInt8) (chunk : List UInt8) (i : ℕ) : UInt8 :=
  if i < srsDataMaxSize then chunk.getD i 0 else heap i

/-- `srs_client_recv` for the chunk that `read` returns; `none` for the error path. -/
def srsClientRecv (heap : ℕ → UInt8) (chunk : List UInt8) : Option SrsMessage :=
  if chunk.length < srsHeaderSize then none
  else
    let header := SrsHeader.ofBytes chunk
    let length := (header.length - srsHeaderSize.toUInt32).toInt32
    some {
      command := srsCommand header
      length := length
      data := if 0 < length then
          some ((List.range length.toNatClampNeg).map fun i => recvBuffer heap chunk (srsHeaderSize + i))
        else none }

/-- The messages that `srs_client_read_loop` dispatches for one client, whose reads return the
chunks; a read that fails ends the client. -/
def srsClientReadLoop (heap : ℕ → UInt8) : List (List UInt8) → List SrsMessage
  | [] => []
  | chunk :: chunks =>
    match srsClientRecv heap chunk with
    | none => []
    | some m => m :: srsClientReadLoop heap chunks

/-- A command and a payload that fits the server's buffer. -/
structure SrsPacket where
  command : UInt16
  payload : List UInt8
  payload_le : payload.length + srsHeaderSize ≤ srsDataMaxSize

/-- The message of a packet. -/
def SrsPacket.message (p : SrsPacket) : SrsMessage where
  command := p.command
  length := Int32.ofNat p.payload.length
  data := if p.payload = [] then none else some p.payload

/-- What a client writes for a packet. -/
abbrev SrsPacket.frame (p : SrsPacket) : List UInt8 := srsClientSendMessage p.message

section Header

variable {h : SrsHeader} {chunk : List UInt8}

theorem toBytes_length (h : SrsHeader) : h.toBytes.length = srsHeaderSize := by
  rw [SrsHeader.toBytes, List.length_append, leBytes_length]
  rfl

theorem ofBytes_append (h : SrsHeader) (rest : List UInt8) : .ofBytes (h.toBytes ++ rest) = h := by
  obtain ⟨length, group, index⟩ := h
  have hlt : length.toNat < 256 ^ 4 := length.toNat_lt
  have hword := wordAt_field 0 [] ([group, index] ++ rest) rfl hlt
  rw [List.nil_append] at hword
  have hget : ∀ i < 2, (leBytes 4 length.toNat ++ [group, index] ++ rest).getD (4 + i) 0 =
      [group, index].getD i 0 := by
    intro i hi
    rw [List.append_assoc, List.getD_append_right _ _ _ _ (by rw [leBytes_length]; omega),
      leBytes_length, Nat.add_sub_cancel_left, List.getD_append _ _ _ _ (by simpa using hi)]
  rw [SrsHeader.ofBytes, SrsHeader.toBytes, hget 0 (by omega), hget 1 (by omega), List.append_assoc,
    hword, UInt32.ofNat_toNat]
  rfl

theorem srsCommand_toNat (h : SrsHeader) :
    (srsCommand h).toNat = 256 * h.group.toNat + h.index.toNat := by
  have hgroup := h.group.toNat_lt
  have hindex := h.index.toNat_lt
  have hor := Nat.shiftLeft_add_eq_or_of_lt hindex h.group.toNat
  rw [Nat.shiftLeft_eq] at hor
  simp only [srsCommand, UInt16.toNat_or, UInt16.toNat_shiftLeft, UInt8.toNat_toUInt16,
    UInt16.reduceToNat, Nat.reduceMod, Nat.shiftLeft_eq]
  rw [Nat.mod_eq_of_lt (by omega), ← hor]
  omega

theorem srsGroup_toNat (command : UInt16) : (srsGroup command).toNat = command.toNat / 256 := by
  have hcommand := command.toNat_lt
  simp only [srsGroup, UInt16.toNat_toUInt8, UInt16.toNat_shiftRight, UInt16.reduceToNat,
    Nat.reduceMod, Nat.shiftRight_eq_div_pow]
  omega

theorem srsIndex_toNat (command : UInt16) : (srsIndex command).toNat = command.toNat % 256 := by
  simp only [srsIndex, UInt16.toNat_toUInt8, UInt16.toNat_and, UInt16.reduceToNat]
  rw [Nat.and_two_pow_sub_one_eq_mod _ 8]
  omega

/-- A command and the two bytes of a header say the same. -/
theorem srsCommand_eq_iff {h : SrsHeader} {command : UInt16} :
    srsCommand h = command ↔ h.group = srsGroup command ∧ h.index = srsIndex command := by
  have hgroup := h.group.toNat_lt
  have hindex := h.index.toNat_lt
  have hcommand := command.toNat_lt
  simp only [← UInt16.toNat_inj, ← UInt8.toNat_inj, srsCommand_toNat, srsGroup_toNat, srsIndex_toNat]
  omega

end Header

section Packet

variable {p : SrsPacket} {heap : ℕ → UInt8} {chunk : List UInt8}

/-- The header of a packet. -/
def SrsPacket.header (p : SrsPacket) : SrsHeader where
  length := UInt32.ofNat (p.payload.length + srsHeaderSize)
  group := srsGroup p.command
  index := srsIndex p.command

end Packet

section Stream

variable {chunks : List (List UInt8)}

end Stream

end Mocha.Ril
