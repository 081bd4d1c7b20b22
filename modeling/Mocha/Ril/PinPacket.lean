import Mocha.Ipc.SimChv
import Mocha.Ril.Pin

/-! The packets of the requests that need a PIN: each of the requests is refused, or its strings go to
the SIM in one packet. -/
namespace Mocha.Ril
open Mocha.Lib Mocha.Ipc

/-- The requests with a PIN, and what they come with. -/
inductive ChvRequest
  | enterSimPin (pointerLength : ℕ) (pin : CString)
  | enterSimPuk (data : Option (List CString))
  | setFacilityLock (data : Option (List CString))
  | changeSimPin (data : Option (List CString))

namespace ChvRequest

def handle (s : RilData) (t : RilToken) : ChvRequest → RilData × List RilEffect
  | enterSimPin pointerLength pin => rilRequestEnterSimPin s t pointerLength pin
  | enterSimPuk data => rilRequestEnterSimPuk s t data
  | setFacilityLock data => rilRequestSetFacilityLock s t data
  | changeSimPin data => rilRequestChangeSimPin s t data

/-- The variable for the token. -/
def slot : ChvRequest → ChvKind
  | enterSimPin .. => .pinStatus
  | enterSimPuk _ => .pukStatus
  | setFacilityLock _ => .setFacilityLock
  | changeSimPin _ => .changeSimPin

/-- The type and the data of the packet that the request is for, if it is for one. -/
def packet : ChvRequest → Option (UInt8 × List UInt8)
  | enterSimPin _ pin => some (simOemRequestVerifyChv, chvBody simPtypePin1 pin)
  | enterSimPuk (some (puk :: pin :: _)) => some (simOemRequestUnblockChv, chvBody₂ simPtypePuk1 puk pin)
  | enterSimPuk _ => none
  | setFacilityLock (some (_ :: lock :: password :: _ :: _)) =>
    if lock = cString "1" then some (simOemRequestEnableChv, chvBody simPtypePin1 password)
    else if lock = cString "0" then some (simOemRequestDisableChv, chvBody simPtypePin1 password)
    else none
  | setFacilityLock _ => none
  | changeSimPin (some (passwordOld :: passwordNew :: _)) =>
    some (simOemRequestChangeChv, chvBody₂ simPtypePin1 passwordOld passwordNew)
  | changeSimPin _ => none

/-- The strings fit into the packet, and what is checked of the request leads to one. -/
def Fits : ChvRequest → Prop
  | enterSimPin pointerLength pin => pointerLength ≤ 16 ∧ pin.length ≤ 9
  | enterSimPuk (some (puk :: pin :: _)) => puk.length ≤ 10 ∧ pin.length ≤ 9
  | enterSimPuk _ => True
  | setFacilityLock (some (facility :: lock :: password :: _ :: _)) => facility = cString "SC" →
    (lock = cString "1" ∨ lock = cString "0") ∧ password.length ≤ 9
  | setFacilityLock _ => True
  | changeSimPin (some (passwordOld :: passwordNew :: _)) =>
    passwordOld.length ≤ 10 ∧ passwordNew.length ≤ 9
  | changeSimPin _ => True

end ChvRequest

/-- The packets of a call that sends a PIN; none for other calls. -/
def chvFrames (fresh : ℕ → UInt8) : IpcCall → Option (List ModemIo)
  | .simVerifyChv hSim pinType pin => simVerifyChv fresh hSim pinType pin
  | .simUnblockChv hSim pinType puk pin => simUnblockChv fresh hSim pinType puk pin
  | .simEnableChv hSim pinType pin => simEnableChv fresh hSim pinType pin
  | .simDisableChv hSim pinType pin => simDisableChv fresh hSim pinType pin
  | .simChangeChv hSim pinType oldPin newPin => simChangeChv fresh hSim pinType oldPin newPin
  | _ => none

/-- The strings of a call that sends a PIN end within the buffer of its packet. -/
def RilEffect.chvInPacket : RilEffect → Bool
  | .ipc call => (chvFrames (fun _ => 0) call).isSome
  | _ => true

/-- The strings of the packet of a request with a PIN end within its buffer. -/
def ChvRequest.InPacket (s : RilData) (r : ChvRequest) : Prop :=
  ∀ e ∈ (r.handle s rilTokenNull).2, e.chvInPacket

instance (s : RilData) (r : ChvRequest) : Decidable (r.InPacket s) :=
  inferInstanceAs (Decidable (∀ e ∈ (r.handle s rilTokenNull).2, e.chvInPacket))

/-- The request is refused: its token is completed with a failure, and that is all. -/
def RefusesChv (s : RilData) (t : RilToken) (r : ChvRequest) : Prop :=
  r.handle s t = (s, [.complete ⟨t, .genericFailure, none⟩])

/-- The request is carried out: its packet is sent, and its token waits for the answer. -/
def CarriesOutChv (fresh : ℕ → UInt8) (s : RilData) (t : RilToken) (r : ChvRequest) : Prop :=
  ∃ call packetType body,
    r.handle s t = ({ s with tokens := s.tokens.setChv t r.slot }, [.ipc call]) ∧
      r.packet = some (packetType, body) ∧ SendsChv (chvFrames fresh call) 0x4 packetType body

section

variable {fresh : ℕ → UInt8} {s : RilData} {t : RilToken}

/-- A request that makes the call for its packet, and nothing else. -/
theorem settles_iff_of_call {r : ChvRequest} (call : IpcCall) {packetType : UInt8} {body : List UInt8}
    (hhandle : r.handle s t = ({ s with tokens := s.tokens.setChv t r.slot }, [.ipc call]))
    (hpacket : r.packet = some (packetType, body)) :
    RefusesChv s t r ∨ CarriesOutChv fresh s t r ↔
      SendsChv (chvFrames fresh call) 0x4 packetType body := by
  constructor
  · rintro (hrefused | ⟨call', packetType', body', hhandle', hpacket', hsends'⟩)
    · exact nomatch congrArg Prod.snd (hrefused.symm.trans hhandle)
    · obtain rfl : call' = call := by simpa using congrArg Prod.snd (hhandle'.symm.trans hhandle)
      obtain ⟨rfl, rfl⟩ : packetType' = packetType ∧ body' = body := by
        simpa using hpacket'.symm.trans hpacket
      exact hsends'
  · intro hsends
    exact .inr ⟨call, packetType, body, hhandle, hpacket, hsends⟩

/-- A request that neither is refused nor makes a call alone. -/
theorem not_settles {r : ChvRequest} (hrefuses : (r.handle s t).2 ≠ [.complete ⟨t, .genericFailure, none⟩])
    (hcalls : ∀ call, (r.handle s t).2 ≠ [.ipc call]) :
    ¬(RefusesChv s t r ∨ CarriesOutChv fresh s t r) := by
  rintro (hrefused | ⟨call, -, -, hhandle, -⟩)
  · exact hrefuses (congrArg Prod.snd hrefused)
  · exact hcalls call (congrArg Prod.snd hhandle)

theorem sessionId_ne_zero : (0x4 : UInt8) ≠ 0 := by decide

/-- The PIN is entered; a request that has been refused goes on. -/
theorem enterSimPin_settles (pointerLength : ℕ) (pin : CString) :
    RefusesChv s t (.enterSimPin pointerLength pin) ∨
        CarriesOutChv fresh s t (.enterSimPin pointerLength pin) ↔
      pointerLength ≤ 16 ∧ pin.length ≤ 9 := by
  by_cases hlength : pointerLength ≤ 16
  · rw [and_iff_right hlength]
    refine (settles_iff_of_call (.simVerifyChv 0x4 simPtypePin1 pin) ?_ rfl).trans
      (sendsChv_iff sessionId_ne_zero pin)
    simp [ChvRequest.handle, rilRequestEnterSimPin, Nat.not_lt.mpr hlength, ChvRequest.slot,
      RilTokens.setChv]
  · have hout : ((ChvRequest.enterSimPin pointerLength pin).handle s t).2 =
        [.complete ⟨t, .genericFailure, none⟩, .ipc (.simVerifyChv 0x4 simPtypePin1 pin)] := by
      simp [ChvRequest.handle, rilRequestEnterSimPin, Nat.not_le.mp hlength]
    refine iff_of_false (not_settles ?_ ?_) fun h => hlength h.1
    · rw [hout]
      exact nofun
    · rw [hout]
      exact nofun

theorem enterSimPuk_settles (data : Option (List CString)) :
    RefusesChv s t (.enterSimPuk data) ∨ CarriesOutChv fresh s t (.enterSimPuk data) ↔
      (ChvRequest.enterSimPuk data).Fits := by
  rcases data with _ | _ | ⟨puk, _ | ⟨pin, rest⟩⟩
  · exact iff_of_true (.inl rfl) trivial
  · exact iff_of_true (.inl rfl) trivial
  · exact iff_of_true (.inl rfl) trivial
  · refine (settles_iff_of_call (.simUnblockChv 0x4 simPtypePuk1 puk pin) rfl rfl).trans ?_
    exact sendsChv₂_iff sessionId_ne_zero puk pin

theorem changeSimPin_settles (data : Option (List CString)) :
    RefusesChv s t (.changeSimPin data) ∨ CarriesOutChv fresh s t (.changeSimPin data) ↔
      (ChvRequest.changeSimPin data).Fits := by
  rcases data with _ | _ | ⟨passwordOld, _ | ⟨passwordNew, rest⟩⟩
  · exact iff_of_true (.inl rfl) trivial
  · exact iff_of_true (.inl rfl) trivial
  · exact iff_of_true (.inl rfl) trivial
  · refine (settles_iff_of_call (.simChangeChv 0x4 simPtypePin1 passwordOld passwordNew)
      rfl rfl).trans ?_
    exact sendsChv₂_iff sessionId_ne_zero passwordOld passwordNew

/-- The lock is set; one that is neither to be on nor to be off has its token kept, and no packet. -/
theorem setFacilityLock_settles (data : Option (List CString)) :
    RefusesChv s t (.setFacilityLock data) ∨ CarriesOutChv fresh s t (.setFacilityLock data) ↔
      (ChvRequest.setFacilityLock data).Fits := by
  rcases data with _ | _ | ⟨facility, _ | ⟨lock, _ | ⟨password, _ | ⟨x, rest⟩⟩⟩⟩
  · exact iff_of_true (.inl rfl) trivial
  · exact iff_of_true (.inl rfl) trivial
  · exact iff_of_true (.inl rfl) trivial
  · exact iff_of_true (.inl rfl) trivial
  · exact iff_of_true (.inl rfl) trivial
  · let r : ChvRequest := .setFacilityLock (some (facility :: lock :: password :: x :: rest))
    change RefusesChv s t r ∨ CarriesOutChv fresh s t r ↔
      (facility = cString "SC" → (lock = cString "1" ∨ lock = cString "0") ∧ password.length ≤ 9)
    by_cases hfacility : facility = cString "SC"
    · rw [forall_prop_of_true hfacility]
      have hhandle : r.handle s t = ({ s with tokens := s.tokens.setChv t r.slot },
          if lock = cString "1" then [.ipc (.simEnableChv 0x4 simPtypePin1 password)]
          else if lock = cString "0" then [.ipc (.simDisableChv 0x4 simPtypePin1 password)]
          else []) := if_pos hfacility
      by_cases hon : lock = cString "1"
      · rw [if_pos hon] at hhandle
        rw [and_iff_right (.inl hon)]
        exact (settles_iff_of_call _ hhandle (if_pos hon)).trans (sendsChv_iff sessionId_ne_zero password)
      · rw [if_neg hon] at hhandle
        by_cases hoff : lock = cString "0"
        · rw [if_pos hoff] at hhandle
          rw [and_iff_right (.inr hoff)]
          exact (settles_iff_of_call _ hhandle ((if_neg hon).trans (if_pos hoff))).trans
            (sendsChv_iff sessionId_ne_zero password)
        · rw [if_neg hoff] at hhandle
          refine iff_of_false (not_settles ?_ ?_) fun h => h.1.elim hon hoff
          · rw [hhandle]
            exact nofun
          · rw [hhandle]
            exact nofun
    · exact iff_of_true (.inl (if_neg hfacility)) fun h => absurd h hfacility

/-- **A request with a PIN** is refused, or its strings are sent and its token waits, exactly if the
strings fit and what is checked leads to one of the two. -/
theorem settlesChv_iff (fresh : ℕ → UInt8) (s : RilData) (t : RilToken) (r : ChvRequest) :
    RefusesChv s t r ∨ CarriesOutChv fresh s t r ↔ r.Fits := by
  cases r with
  | enterSimPin pointerLength pin => exact enterSimPin_settles pointerLength pin
  | enterSimPuk data => exact enterSimPuk_settles data
  | setFacilityLock data => exact setFacilityLock_settles data
  | changeSimPin data => exact changeSimPin_settles data

/-- The old PIN reaches into the place of the new one. -/
theorem not_settlesChv_overlap :
    ¬(RefusesChv .init 1 (.changeSimPin (some [List.replicate 11 0x31, cString "1234"])) ∨
      CarriesOutChv (fun _ => 0) .init 1
        (.changeSimPin (some [List.replicate 11 0x31, cString "1234"]))) :=
  fun h => absurd ((changeSimPin_settles _).mp h).1 (by decide)

end

end Mocha.Ril
