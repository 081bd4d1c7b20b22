import Mocha.Ril.Data

/-! Identities and versions, the screen, sound and USSD (`misc.c`, `snd.c`, `ss.c`), and the tokens
that wait for an identity (`ril_tokens_check`). -/
namespace Mocha.Ril

def rilRequestGetImei (s : RilData) (t : RilToken) : RilData × List RilEffect :=
  if s.cachedImei ≠ [] then (s, [.complete ⟨t, .success, some (.string s.cachedImei)⟩])
  else ({ s with tokens := { s.tokens with getImei := t } }, [])

def rilRequestBasebandVersion (s : RilData) (t : RilToken) : RilData × List RilEffect :=
  if s.cachedSwVersion ≠ [] then (s, [.complete ⟨t, .success, some (.string s.cachedSwVersion)⟩])
  else ({ s with tokens := { s.tokens with basebandVersion := t } }, [])

def rilRequestGetImsi (s : RilData) (t : RilToken) : RilData × List RilEffect :=
  if s.cachedImsi ≠ [] then
    ({ s with tokens := { s.tokens with getImsi := rilTokenNull } },
      [.complete ⟨t, .success, some (.string s.cachedImsi)⟩])
  else ({ s with tokens := { s.tokens with getImsi := t } }, [])

/-- `ril_tokens_check` -/
def rilTokensCheck (s : RilData) : RilData × List RilEffect :=
  andThen (andThen
    (if s.tokens.basebandVersion ≠ rilTokenNull ∧ s.state.radioState ≠ .off then
      let r := rilRequestBasebandVersion s s.tokens.basebandVersion
      ({ r.1 with tokens := { r.1.tokens with basebandVersion := rilTokenNull } }, r.2)
    else (s, []))
    fun s =>
      if s.tokens.getImei ≠ rilTokenNull ∧ s.cachedImei ≠ [] then
        let r := rilRequestGetImei s s.tokens.getImei
        ({ r.1 with tokens := { r.1.tokens with getImei := rilTokenNull } }, r.2)
      else (s, []))
    fun s =>
      if s.tokens.getImsi ≠ rilTokenNull ∧ s.cachedImsi ≠ [] then
        let r := rilRequestGetImsi s s.tokens.getImsi
        ({ r.1 with tokens := { r.1.tokens with getImsi := rilTokenNull } }, r.2)
      else (s, [])

def battGaugeStatusReq : UInt16 := 0x55

def rilRequestScreenState (s : RilData) (t : RilToken) (status : ℤ) : RilData × List RilEffect :=
  let packets : List RilEffect := if status = 0 then [.ipc (.ipcPowerMode 0)]
    else [.ipc (.drvSendPacket battGaugeStatusReq 0), .ipc (.ipcPowerMode 6)]
  (s, packets ++ [.complete ⟨t, .success, none⟩])

def rilRequestSetMute (s : RilData) (t : RilToken) (mute : ℤ) : RilData × List RilEffect :=
  let muteData : UInt8 := if 0 < mute then 1 else 0
  (s, [.ipc (.soundSendSetMute s.inDevice s.outDevice muteData 0 sndTypeVoice),
    .complete ⟨t, .success, none⟩])

def ussdActionRequire : ℕ := 1
def ussdTerminatedByNet : ℕ := 2
def ussdNotSupport : ℕ := 4

/-- A `tapiSsResponse` that ends a dialogue. -/
def ussdEnd : TapiSsResponse := ⟨3, 1, 0, []⟩

def rilRequestSendUssd (s : RilData) (t : RilToken) (data : CString) : RilData × List RilEffect :=
  let answer : RilEffect :=
    if 0 < data.length then .complete ⟨t, .success, none⟩ else .complete ⟨t, .genericFailure, none⟩
  if s.state.ussdState = ussdActionRequire then
    if 0 < data.length then (s, [.ipc (.tapiSsUssdResp ⟨2, 1, 0xF, data⟩), answer])
    else ({ s with state := { s.state with ussdState := ussdNotSupport } },
      [.ipc (.tapiSsUssdResp ussdEnd), answer])
  else if 0 < data.length then (s, [.ipc (.tapiSsSendUssdStringRequest 0xF data), answer])
  else (s, [answer])

def rilRequestCancelUssd (s : RilData) (t : RilToken) : RilData × List RilEffect :=
  ({ s with state := { s.state with ussdState := ussdTerminatedByNet } },
    [.ipc (.tapiSsUssdResp ussdEnd), .complete ⟨t, .success, none⟩])

end Mocha.Ril
