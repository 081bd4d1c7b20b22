import Mocha.Ipc.Battery
import Mocha.Ipc.CopyBounds
import Mocha.Ipc.DispatchDepth
import Mocha.Ipc.FmDir
import Mocha.Ipc.FmResponse
import Mocha.Ipc.JetSend
import Mocha.Ipc.Send
import Mocha.Ipc.TapiRequest
import Mocha.Ril.CallConfirm
import Mocha.Ril.CallHangup
import Mocha.Ril.CallIds
import Mocha.Ril.CallRefusal
import Mocha.Ril.Client
import Mocha.Ril.DeliverStrings
import Mocha.Ril.Downlink
import Mocha.Ril.GprsFailCause
import Mocha.Ril.GprsTunnels
import Mocha.Ril.HexCodec
import Mocha.Ril.ListCalls
import Mocha.Ril.NettextBounds
import Mocha.Ril.PinAnswer
import Mocha.Ril.Plmn
import Mocha.Ril.Position
import Mocha.Ril.RequestTable
import Mocha.Ril.SimIoAnswer
import Mocha.Ril.SimIoPayload
import Mocha.Ril.SmsAddress
import Mocha.Ril.SmsUserData
import Mocha.Ril.SrsClient
import Mocha.Ril.SrsReadLoop
import Mocha.Ril.StartNetwork
import Mocha.Ril.TunnelStop
