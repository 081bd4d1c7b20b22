import Mocha.Ril.Srs

/-! Messages from the server to a client (`srs_client_send_message` of `mocha-ril/srs.c`,
`srs_client_recv_message` of `srs-client.c`). The client reads the header and then as many bytes as
it announces. Allocations are taken to succeed, and the socket to be ready whenever it is selected. -/
namespace Mocha.Ril
open Mocha.Lib

/-- What the server's `srs_client_send_message` hands to `write()`. -/
def SrsServer.srsClientSendMessage (m : SrsMessage) : List UInt8 :=
  let header : SrsHeader :=
    ⟨m.length.toUInt32 + srsHeaderSize.toUInt32, srsGroup m.command, srsIndex m.command⟩
  header.toBytes ++ (m.data.getD []).take m.length.toNatClampNeg

/-- `read()`: what it returns when it is asked for so many of the bytes that have arrived, and what
it leaves. -/
abbrev SocketRead := ℕ → List UInt8 → List UInt8 × List UInt8

/-- Each call returns as many bytes as it was asked for. -/
def SocketRead.Full (read : SocketRead) : Prop :=
  ∀ n arrived, n ≤ arrived.length → read n arrived = (arrived.take n, arrived.drop n)

/-- `srs_client_recv_message`: the message, and what has arrived beyond it. -/
def srsClientRecvMessage (read : SocketRead) (arrived : List UInt8) :
    Option (SrsMessage × List UInt8) :=
  let r := read srsHeaderSize arrived
  if r.1.length ≠ srsHeaderSize then none
  else
    let header := SrsHeader.ofBytes r.1
    let length := (header.length - srsHeaderSize.toUInt32).toInt32
    if 0 < length then
      let r' := read length.toNatClampNeg r.2
      if r'.1.length ≠ length.toNatClampNeg then none
      else some (⟨srsCommand header, length, some r'.1⟩, r'.2)
    else some (⟨srsCommand header, 0, none⟩, r.2)

/-- A message whose `length` is that of its data. -/
structure SrsOutgoing extends SrsMessage where
  length_eq : length.toInt = (data.getD []).length

/-- The message without data if there are none. -/
def SrsOutgoing.received (m : SrsOutgoing) : SrsMessage where
  command := m.command
  length := m.length
  data := if m.data.getD [] = [] then none else m.data

section

variable {read : SocketRead} {m : SrsOutgoing}

theorem SrsOutgoing.toNat_length (m : SrsOutgoing) :
    m.length.toNatClampNeg = (m.data.getD []).length := by
  rw [Int32.toNatClampNeg, m.length_eq, Int.toNat_natCast]

theorem SrsOutgoing.length_pos_iff (m : SrsOutgoing) : 0 < m.length ↔ m.data.getD [] ≠ [] := by
  rw [Int32.lt_iff_toInt_lt, m.length_eq, ← List.length_pos_iff]
  exact Int.natCast_pos

/-- What is written for a message: a header and all of its data. -/
theorem srsClientSendMessage_eq (m : SrsOutgoing) : SrsServer.srsClientSendMessage m.toSrsMessage =
    SrsHeader.toBytes ⟨m.length.toUInt32 + srsHeaderSize.toUInt32, srsGroup m.command,
      srsIndex m.command⟩ ++ m.data.getD [] := by
  rw [SrsServer.srsClientSendMessage, m.toNat_length, List.take_length]

/-- The client gets one message back and leaves what follows it. -/
theorem srsClientRecvMessage_append (hread : read.Full) (m : SrsOutgoing) (rest : List UInt8) :
    srsClientRecvMessage read (SrsServer.srsClientSendMessage m.toSrsMessage ++ rest) =
      some (m.received, rest) := by
  rw [srsClientSendMessage_eq, List.append_assoc]
  generalize hheader : (⟨m.length.toUInt32 + srsHeaderSize.toUInt32, srsGroup m.command,
    srsIndex m.command⟩ : SrsHeader) = header
  have hcommand : srsCommand header = m.command := by
    rw [srsCommand_eq_iff, ← hheader]
    exact ⟨rfl, rfl⟩
  have hlength : (header.length - srsHeaderSize.toUInt32).toInt32 = m.length := by
    rw [← hheader, UInt32.add_sub_cancel]
    rfl
  have hfirst : read srsHeaderSize (header.toBytes ++ (m.data.getD [] ++ rest)) =
      (header.toBytes, m.data.getD [] ++ rest) := by
    rw [hread _ _ (by rw [List.length_append, toBytes_length]; omega), ← toBytes_length header,
      List.take_left, List.drop_left]
  have hofBytes : SrsHeader.ofBytes header.toBytes = header := by
    rw [← List.append_nil header.toBytes, ofBytes_append]
  unfold srsClientRecvMessage
  dsimp only
  rw [hfirst, if_neg (not_not.mpr (toBytes_length header)), hofBytes, hlength, hcommand]
  by_cases hpos : 0 < m.length
  · have hne := m.length_pos_iff.mp hpos
    have hsecond : read m.length.toNatClampNeg (m.data.getD [] ++ rest) = (m.data.getD [], rest) := by
      rw [m.toNat_length, hread _ _ (by rw [List.length_append]; omega), List.take_left,
        List.drop_left]
    have hdata : some (m.data.getD []) = m.data := by
      cases hm : m.data with
      | none => rw [hm] at hne; exact absurd rfl hne
      | some data => rfl
    rw [if_pos hpos, hsecond, if_neg (not_not.mpr m.toNat_length.symm), hdata]
    simp only [SrsOutgoing.received, if_neg hne]
  · have hnil : m.data.getD [] = [] := not_not.mp (mt m.length_pos_iff.mpr hpos)
    have hzero : m.length = 0 := by
      apply Int32.toInt_inj.mp
      rw [m.length_eq, hnil]
      rfl
    rw [if_neg hpos, hnil]
    simp only [SrsOutgoing.received, if_pos hnil, hzero, List.nil_append]

/-- **The client receives what the server sends**: as many calls as there were messages return
these, in order, and leave no byte over. -/
theorem srsClientRecvMessage_all (hread : read.Full) (ms : List SrsOutgoing) :
    readMany (srsClientRecvMessage read) ms.length
        (ms.map fun m => SrsServer.srsClientSendMessage m.toSrsMessage).flatten =
      some (ms.map SrsOutgoing.received, []) := by
  have hall := readMany_flatten (srsClientRecvMessage_append hread) ms []
  rwa [List.append_nil] at hall

/-- A ping and an empty message. -/
theorem srsClientRecvMessage_ping :
    readMany (srsClientRecvMessage fun n arrived => (arrived.take n, arrived.drop n)) 2
        [10, 0, 0, 0, 1, 1, 0xFE, 0xAF, 0x0C, 0, 6, 0, 0, 0, 3, 5] =
      some ([⟨0x0101, 4, some [0xFE, 0xAF, 0x0C, 0]⟩, ⟨0x0305, 0, none⟩], []) := by
  let ms : List SrsOutgoing :=
    [⟨⟨0x0101, 4, some [0xFE, 0xAF, 0x0C, 0]⟩, by decide⟩, ⟨⟨0x0305, 0, none⟩, by decide⟩]
  have hsent : (ms.map fun m => SrsServer.srsClientSendMessage m.toSrsMessage).flatten =
      [10, 0, 0, 0, 1, 1, 0xFE, 0xAF, 0x0C, 0, 6, 0, 0, 0, 3, 5] := by decide
  rw [← hsent]
  exact srsClientRecvMessage_all (fun _ _ _ => rfl) ms

end

end Mocha.Ril
