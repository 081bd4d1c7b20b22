import Mathlib.Data.Vector.Basic
import Mocha.Lib.Radix
import Mocha.Ril.Bcd

/-! Messages as the network sends them: user data with an optional header for concatenation, and the
octets of an SMS-SUBMIT without a validity period. -/
namespace Mocha.Ril
open Mocha.Lib

/-- The text of a message, in one of the two alphabets. -/
inductive SmsText
  | gsm7 (septets : List UInt8) (h : IsDigits 128 septets)
  | ucs2 (octets : List UInt8)

/-- `header` is the information element of a message in parts. -/
structure UserData where
  header : Option (List.Vector UInt8 5)
  text : SmsText

namespace UserData

/-- The header with its length in front. -/
def headerOctets (u : UserData) : List UInt8 := u.header.elim [] fun h => 5 :: h.toList

/-- TP-UDL counts septets or octets. The header and a fill bit take seven septets. -/
def udl (u : UserData) : ℕ :=
  match u.text with
  | .gsm7 septets _ => septets.length + u.header.elim 0 fun _ => 7
  | .ucs2 octets => octets.length + u.headerOctets.length

/-- TP-UD. Septets are packed from the first bit on, or behind the fill bit. -/
def octets (u : UserData) : List UInt8 :=
  match u.text with
  | .gsm7 septets _ =>
    match u.header with
    | none => leBytes ((7 * septets.length + 7) / 8) (radixNat 128 septets)
    | some h => 5 :: h.toList ++ leBytes ((7 * septets.length + 8) / 8) (2 * radixNat 128 septets)
  | .ucs2 octets => u.headerOctets ++ octets

/-- TP-DCS -/
def dcs (u : UserData) : UInt8 :=
  match u.text with
  | .gsm7 _ _ => 0
  | .ucs2 _ => 8

/-- What TP-UD holds: 160 septets or 140 octets. -/
def capacity (u : UserData) : ℕ :=
  match u.text with
  | .gsm7 _ _ => 160
  | .ucs2 _ => 140

def Fits (u : UserData) : Prop := u.udl ≤ u.capacity

/-- The element and the text, as they stand in `messageBody`. -/
def body (u : UserData) : List UInt8 :=
  u.header.elim [] List.Vector.toList ++ match u.text with
  | .gsm7 septets _ => septets
  | .ucs2 octets => octets

end UserData

/-- What stands in front of TP-UDL. -/
structure SubmitHeader where
  statusReport : Bool
  messageRef : UInt8
  number : List (Fin 10)
  toa : UInt8
  pid : UInt8
  number_le : number.length ≤ 20

namespace SubmitHeader

/-- Bits of the first octet: the message type, whether a report is requested, whether the user data
have a header. -/
def firstOctet (h : SubmitHeader) (udhi : Bool) : UInt8 :=
  0x01 + (if h.statusReport then 0x20 else 0) + (if udhi then 0x40 else 0)

def octets (h : SubmitHeader) (udhi : Bool) (dcs : UInt8) : List UInt8 :=
  [h.firstOctet udhi, h.messageRef, UInt8.ofNat h.number.length, h.toa] ++
    semiOctets h.number ++ [h.pid, dcs]

end SubmitHeader

/-- A service centre. -/
structure ServiceCentre where
  number : List (Fin 10)
  toa : UInt8
  number_pos : 0 < number.length
  number_le : number.length ≤ 20

/-- The length of the address counts its octets. -/
def ServiceCentre.octets (c : ServiceCentre) : List UInt8 :=
  [UInt8.ofNat ((semiOctets c.number).length + 1), c.toa] ++ semiOctets c.number

/-- An outgoing message. -/
structure SmsSubmit where
  header : SubmitHeader
  centre : ServiceCentre
  userData : UserData
  number_pos : 0 < header.number.length
  fits : userData.Fits

def SmsSubmit.tpdu (m : SmsSubmit) : List UInt8 :=
  m.header.octets m.userData.header.isSome m.userData.dcs ++
    UInt8.ofNat m.userData.udl :: m.userData.octets

end Mocha.Ril
