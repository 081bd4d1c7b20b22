import Mocha.Ipc.Frame

/-! The file manager that the modem sends its file operations to (`fm.c`), for the Wave. What the
system calls of a request do is given; allocations are taken to succeed, and a request to have its
header. -/
namespace Mocha.Ipc
open Mocha.Lib

def maxOpenDirs : ℕ := 10
/-- `PATH_MAX_LEN`, the size of `nameBuf`. -/
def pathMaxLen : ℕ := 92

/-- The operations that the modem asks for, by their number. -/
def fmReadFileOp : ℕ := 3
@[ext]
structure FmPacketHeader where
  fmPacketType : UInt32
  reserved1 : UInt32
  packetLen : UInt32
  reqCounter : UInt32
deriving DecidableEq

def FmPacketHeader.toBytes (h : FmPacketHeader) : List UInt8 :=
  leBytes 4 h.fmPacketType.toNat ++ leBytes 4 h.reserved1.toNat ++ leBytes 4 h.packetLen.toNat ++
    leBytes 4 h.reqCounter.toNat

def FmPacketHeader.ofBytes (l : List UInt8) : FmPacketHeader where
  fmPacketType := UInt32.ofNat (wordAt 4 0 l)
  reserved1 := UInt32.ofNat (wordAt 4 4 l)
  packetLen := UInt32.ofNat (wordAt 4 8 l)
  reqCounter := UInt32.ofNat (wordAt 4 12 l)

/-- `sizeof(struct fmPacketHeader)` -/
def fmPacketHeaderSize : ℕ := 16

structure FmRequest where
  header : FmPacketHeader
  reqBuf : List UInt8
deriving DecidableEq

namespace FmRequest

/-- The argument at an offset of the request. -/
def arg (rx : FmRequest) (off : ℕ) : UInt32 := UInt32.ofNat (wordAt 4 off rx.reqBuf)

/-- The file descriptor, without the flags that `FmOpenFile` has added to it. -/
def fd (rx : FmRequest) : UInt32 := rx.arg 0 &&& 0xFFF

def mochaRoot : List UInt8 := "/data/radio".toList.map fun c => UInt8.ofNat c.toNat

/-- `nameBuf`: the root directory and the name at an offset of the request. -/
def name (rx : FmRequest) (off : ℕ) : List UInt8 := mochaRoot ++ (rx.reqBuf.drop off).takeWhile (· ≠ 0)

end FmRequest

/-- `respBuf`: not set, null, or a block whose bytes are `none` where they were not written. -/
inductive FmRespBuf
  | unset
  | null
  | block (bytes : List (Option UInt8))
deriving DecidableEq

/-- The bytes that were put into the buffer. -/
def FmRespBuf.written : FmRespBuf → List UInt8
  | .block bytes => bytes.filterMap id
  | _ => []

/-- `struct fmResponse`; `none` for a field that was not set. -/
structure FmResponse where
  header : FmPacketHeader
  funcRet : Option UInt32
  errorVal : Option UInt32
  respBuf : FmRespBuf
deriving DecidableEq

/-- The values of `errno` that are looked at. -/
inductive Errno
  | eacces
  | enoent
  | ebadf
  | eexist
  | enotdir
  | other
deriving DecidableEq, Repr

def fmGetLastError : Errno → UInt32
  | .eacces => 0x90003
  | .enoent => 0x60003
  | .ebadf => 0x70003
  | .eexist | .enotdir => 0x130003
  | .other => 0xDEADFACE

/-- The result of a system call, and `errno` after it. -/
structure SysRet where
  retval : Int32
  errno : Errno
deriving DecidableEq

/-- The members of `struct stat` that are used. -/
structure FileStat where
  stSize : ℕ
  stMode : ℕ
  stDev : ℕ
  stIno : ℕ
deriving DecidableEq

/-- What the system calls of one request do. A directory stream is given by its address. -/
structure FmSystem where
  openFile (name : List UInt8) (flags : UInt32) : SysRet
  close (fd : UInt32) : SysRet
  creat (name : List UInt8) : SysRet
  read (fd size : UInt32) : Except Errno { l : List UInt8 // l.length ≤ size.toNat ∧ l.length < 2 ^ 31 }
  write (fd : UInt32) (bytes : List UInt8) : SysRet
  fsync (fd : UInt32) : SysRet
  lseek (fd offset origin : UInt32) : SysRet
  remove (name : List UInt8) : SysRet
  stat (name : List UInt8) : Except Errno FileStat
  fstat (fd : UInt32) : Except Errno FileStat
  ftruncate (fd length : UInt32) : SysRet
  opendir (name : List UInt8) : Except Errno ℕ
  closedir (dir : Option ℕ) : SysRet
  mkdir (name : List UInt8) : SysRet

/-- A system in which every call fails. -/
def refusingSystem : FmSystem where
  openFile _ _ := ⟨-1, .enoent⟩
  close _ := ⟨-1, .ebadf⟩
  creat _ := ⟨-1, .eacces⟩
  read _ _ := .error .ebadf
  write _ _ := ⟨-1, .ebadf⟩
  fsync _ := ⟨-1, .ebadf⟩
  lseek _ _ _ := ⟨-1, .ebadf⟩
  remove _ := ⟨-1, .enoent⟩
  stat _ := .error .enoent
  fstat _ := .error .ebadf
  ftruncate _ _ := ⟨-1, .ebadf⟩
  opendir _ := .error .enoent
  closedir _ := ⟨-1, .ebadf⟩
  mkdir _ := ⟨-1, .eacces⟩

/-- `dirArray` and `dirIndex` -/
structure FmDirs where
  dirArray : List (Option ℕ)
  dirIndex : ℕ
deriving DecidableEq

def FmDirs.init : FmDirs := ⟨List.replicate maxOpenDirs none, 0⟩

/-- The end of most operations: two words and no buffer. -/
def fmReply (tx : FmResponse) (funcRet errorVal : UInt32) : FmResponse where
  header := { tx.header with packetLen := 4 + 4 }
  funcRet := some funcRet
  errorVal := some errorVal
  respBuf := .null

def SysRet.error (r : SysRet) : UInt32 := if r.retval < 0 then fmGetLastError r.errno else 0

/-- The end of the operations that return whether they have succeeded. -/
def fmDone (tx : FmResponse) (r : SysRet) : FmResponse :=
  fmReply tx (if r.retval < 0 then 0 else 1) r.error

def fmOpenFlags (mode : UInt32) : UInt32 :=
  (if mode &&& 0x1 ≠ 0 then 0x40 else 0) ||| (if mode &&& 0x4 ≠ 0 then 0x2 else 0) |||
    (if mode &&& 0x8 ≠ 0 then 0x200 else 0) ||| (if mode &&& 0x10 ≠ 0 then 0x400 else 0)

/-- `FmOpenFile`. A file that is not there is no error to the modem. -/
def fmOpenFile (sys : FmSystem) (rx : FmRequest) (tx : FmResponse) : FmResponse :=
  let r := sys.openFile (rx.name 4) (fmOpenFlags (rx.arg 0))
  let retval := if r.retval < 0 then r.retval else r.retval ||| 0x61000
  fmReply tx retval.toUInt32 (if retval < 0 ∧ r.errno = .enoent then 0 else r.error)

def fmCloseFile (sys : FmSystem) (rx : FmRequest) (tx : FmResponse) : FmResponse :=
  fmDone tx (sys.close rx.fd)

def fmCreateFile (sys : FmSystem) (rx : FmRequest) (tx : FmResponse) : FmResponse :=
  let r := sys.creat (rx.name 0)
  fmReply tx r.retval.toUInt32 r.error

/-- `FmReadFile`: the number of bytes read, and the bytes. After an error the number is -1, and is
added to the length all the same. -/
def fmReadFile (sys : FmSystem) (rx : FmRequest) (tx : FmResponse) : FmResponse :=
  let size := rx.arg 4
  let numRead : UInt32 := match sys.read rx.fd size with
    | .ok l => UInt32.ofNat l.1.length
    | .error _ => 0xFFFFFFFF
  let bytes : List UInt8 := match sys.read rx.fd size with
    | .ok l => l.1
    | .error _ => []
  { header := { tx.header with packetLen := 4 + 4 + 4 + numRead }
    funcRet := some (match sys.read rx.fd size with | .ok _ => 1 | .error _ => 0)
    errorVal := some (match sys.read rx.fd size with | .ok _ => 0 | .error e => fmGetLastError e)
    respBuf := .block ((leBytes 4 numRead.toNat ++ bytes).map some ++
      List.replicate (size.toNat - bytes.length) none) }

def fmWriteFile (sys : FmSystem) (rx : FmRequest) (tx : FmResponse) : FmResponse :=
  fmDone tx (sys.write rx.fd ((rx.reqBuf.drop 8).take (rx.arg 4).toNat))

def fmFlushFile (sys : FmSystem) (rx : FmRequest) (tx : FmResponse) : FmResponse :=
  fmDone tx (sys.fsync rx.fd)

def fmSeekFile (sys : FmSystem) (rx : FmRequest) (tx : FmResponse) : FmResponse :=
  fmDone tx (sys.lseek rx.fd (rx.arg 8) (rx.arg 4))

/-- `FmTellFile`; `SEEK_CUR` is 1. -/
def fmTellFile (sys : FmSystem) (rx : FmRequest) (tx : FmResponse) : FmResponse :=
  let r := sys.lseek rx.fd 0 1
  fmReply tx r.retval.toUInt32 r.error

def fmRemoveFile (sys : FmSystem) (rx : FmRequest) (tx : FmResponse) : FmResponse :=
  fmDone tx (sys.remove (rx.name 0))

/-- `FmMoveFile`, which is not implemented. -/
def fmMoveFile (_sys : FmSystem) (_rx : FmRequest) (tx : FmResponse) : FmResponse := tx

/-- `fmTime` -/
def fmTime : List UInt8 := [2011, 12, 29, 10, 45, 45].flatMap (leBytes 4)

/-- `FmFileAttribute` as it is filled in for a file, or for a file that could not be looked at. -/
def fmFileAttribute : Except Errno FileStat → List UInt8
  | .ok st =>
    leBytes 4 st.stSize ++ leBytes 4 0 ++ leBytes 4 st.stMode ++ leBytes 4 st.stDev ++ fmTime ++
      leBytes 4 st.stSize ++ fmTime ++ leBytes 8 st.stIno ++ leBytes 4 0 ++ leBytes 4 0 ++
      leBytes 4 st.stSize ++ leBytes 4 st.stSize ++ leBytes 4 0
  | .error _ => List.replicate 12 0 ++ leBytes 4 0xFFFFFFFF ++ List.replicate 80 0

/-- `sizeof(FmFileAttribute)` -/
def fmFileAttributeSize : ℕ := 96

/-- The body that the two operations on the attributes of a file share. -/
def fmAttributes (tx : FmResponse) (r : Except Errno FileStat) : FmResponse where
  header := { tx.header with packetLen := 4 + 4 + fmFileAttributeSize.toUInt32 }
  funcRet := some (match r with | .ok _ => 1 | .error _ => 0)
  errorVal := some (match r with | .ok _ => 0 | .error e => fmGetLastError e)
  respBuf := .block ((fmFileAttribute r).map some)

def fmGetFileAttributes (sys : FmSystem) (rx : FmRequest) (tx : FmResponse) : FmResponse :=
  fmAttributes tx (sys.stat (rx.name 0))

def fmFGetFileAttributes (sys : FmSystem) (rx : FmRequest) (tx : FmResponse) : FmResponse :=
  fmAttributes tx (sys.fstat rx.fd)

def fmSetFileAttributes (_sys : FmSystem) (_rx : FmRequest) (tx : FmResponse) : FmResponse :=
  fmReply tx 0 0xDEADFACE

def fmTruncateFile (sys : FmSystem) (rx : FmRequest) (tx : FmResponse) : FmResponse :=
  fmDone tx (sys.ftruncate rx.fd (rx.arg 4))

/-- `FmOpenDir`. The index wraps before the last slot, whatever is in the slots. -/
def fmOpenDir (sys : FmSystem) (s : FmDirs) (rx : FmRequest) (tx : FmResponse) : FmDirs × FmResponse :=
  match sys.opendir (rx.name 0) with
  | .ok dir =>
    let next := s.dirIndex + 1
    ({ dirArray := s.dirArray.set s.dirIndex (some dir)
       dirIndex := if next = maxOpenDirs - 1 then 0 else next },
      fmReply tx (UInt32.ofNat s.dirIndex) 0)
  | .error e => (s, fmReply tx 0xFFFFFFFF (fmGetLastError e))

/-- The stream in a slot. -/
def FmDirs.stream (s : FmDirs) (fd : ℕ) : Option ℕ := (s.dirArray[fd]?).join

/-- `FmCloseDir`; `none` for a handle that is no index of `dirArray`, a negative one included. -/
def fmCloseDir (sys : FmSystem) (s : FmDirs) (rx : FmRequest) (tx : FmResponse) : Option FmResponse :=
  if (rx.arg 0).toNat < maxOpenDirs then some (fmDone tx (sys.closedir (s.stream (rx.arg 0).toNat)))
  else none

/-- `FmReadDir`, which says that there is nothing. -/
def fmReadDir (_sys : FmSystem) (_rx : FmRequest) (tx : FmResponse) : FmResponse := fmReply tx 0 0

def fmCreateDir (sys : FmSystem) (rx : FmRequest) (tx : FmResponse) : FmResponse :=
  fmDone tx (sys.mkdir (rx.name 0))

/-- `FmRemoveDir`, which is not implemented. -/
def fmRemoveDir (_sys : FmSystem) (_rx : FmRequest) (tx : FmResponse) : FmResponse := tx

/-- `FmGetQuotaSpace`, which is not implemented. -/
def fmGetQuotaSpace (_sys : FmSystem) (_rx : FmRequest) (tx : FmResponse) : FmResponse := tx

/-- `fileOps`; `none` beyond the table, and where the operation leaves `dirArray`. -/
def fileOps (sys : FmSystem) (s : FmDirs) (rx : FmRequest) (tx : FmResponse) :
    ℕ → Option (FmDirs × FmResponse)
  | 0 => some (s, fmOpenFile sys rx tx)
  | 1 => some (s, fmCloseFile sys rx tx)
  | 2 => some (s, fmCreateFile sys rx tx)
  | 3 => some (s, fmReadFile sys rx tx)
  | 4 => some (s, fmWriteFile sys rx tx)
  | 5 => some (s, fmFlushFile sys rx tx)
  | 6 => some (s, fmSeekFile sys rx tx)
  | 7 => some (s, fmTellFile sys rx tx)
  | 8 => some (s, fmRemoveFile sys rx tx)
  | 9 => some (s, fmMoveFile sys rx tx)
  | 10 => some (s, fmGetFileAttributes sys rx tx)
  | 11 => some (s, fmFGetFileAttributes sys rx tx)
  | 12 => some (s, fmSetFileAttributes sys rx tx)
  | 13 => some (s, fmTruncateFile sys rx tx)
  | 14 => some (fmOpenDir sys s rx tx)
  | 15 => (fmCloseDir sys s rx tx).map (s, ·)
  | 16 => some (s, fmReadDir sys rx tx)
  | 17 => some (s, fmCreateDir sys rx tx)
  | 18 => some (s, fmRemoveDir sys rx tx)
  | 19 => some (s, fmGetQuotaSpace sys rx tx)
  | _ => none

def getRequestPacket (data : List UInt8) : FmRequest where
  header := .ofBytes data
  reqBuf := data.drop fmPacketHeaderSize

/-- `memcpy` out of the buffer of a response; `none` where it reads what is not there. -/
def FmRespBuf.copy (buf : FmRespBuf) (n : UInt32) : Option (List (Option UInt8)) :=
  match buf with
  | .block bytes => if n.toNat ≤ bytes.length then some (bytes.take n.toNat) else none
  | _ => if n = 0 then some [] else none

/-- A frame for the modem; a byte is `none` where it was not set. -/
structure FmFrame where
  magic : UInt32
  cmd : UInt32
  datasize : UInt32
  data : List (Option UInt8)
deriving DecidableEq

/-- The bytes of a word that may not be set. -/
def wordBytes (word : Option UInt32) : List (Option UInt8) :=
  match word with
  | some w => (leBytes 4 w.toNat).map some
  | none => List.replicate 4 none

/-- The number of the operation that a request asks for. -/
def FmRequest.op (rx : FmRequest) : ℕ := (rx.header.fmPacketType + 0xEFFFFFFF).toNat

/-- Where the name of a file is in a request, for the operations that put one into `nameBuf`. -/
def fmNameOffset : ℕ → Option ℕ
  | 0 => some 4
  | 2 | 8 | 10 | 14 | 17 => some 0
  | _ => none

/-- The size of the numbers that an operation reads from the request. -/
def fmArgsSize : ℕ → ℕ
  | 6 => 12
  | 3 | 4 | 13 => 8
  | 0 | 1 | 5 | 7 | 11 | 15 | 16 => 4
  | _ => 0

/-- The arguments are in the request, the name fits `nameBuf`, and the size of the block that
`FmReadFile` allocates does not wrap. -/
structure FmRequest.InBounds (rx : FmRequest) : Prop where
  args : fmArgsSize rx.op ≤ rx.reqBuf.length
  name : ∀ off ∈ fmNameOffset rx.op, 0 ∈ rx.reqBuf.drop off ∧ (rx.name off).length < pathMaxLen
  block : rx.op = fmReadFileOp → (rx.arg 4).toNat + 4 < 2 ^ 32

instance (rx : FmRequest) : Decidable rx.InBounds :=
  decidable_of_iff (fmArgsSize rx.op ≤ rx.reqBuf.length ∧
    (∀ off ∈ fmNameOffset rx.op, 0 ∈ rx.reqBuf.drop off ∧ (rx.name off).length < pathMaxLen) ∧
      (rx.op = fmReadFileOp → (rx.arg 4).toNat + 4 < 2 ^ 32))
    ⟨fun h => ⟨h.1, h.2.1, h.2.2⟩, fun h => ⟨h.args, h.name, h.block⟩⟩

/-- What an operation makes of a request: the response starts with its header alone. There is none
where the operation reads outside of the request, `strcat` leaves `nameBuf`, or the block of
`FmReadFile` is smaller than what is put into it. -/
def fmResponse (sys : FmSystem) (s : FmDirs) (rx : FmRequest) : Option (FmDirs × FmResponse) :=
  if rx.InBounds then fileOps sys s rx ⟨rx.header, none, none, .unset⟩ rx.op else none

/-- The frame that is built from a response and what was copied out of its buffer. -/
def FmResponse.frame (tx : FmResponse) (ipcFrame : ModemIo) (payload : List (Option UInt8)) :
    FmFrame where
  magic := ipcFrame.magic
  cmd := ipcFrame.cmd
  datasize := UInt32.ofNat fmPacketHeaderSize + tx.header.packetLen
  data := tx.header.toBytes.map some ++ wordBytes tx.funcRet ++ wordBytes tx.errorVal ++ payload

/-- `ipc_parse_fm`: the frame that it sends; `none` where there is no such operation, or where it
reads what is not there. -/
def ipcParseFm (sys : FmSystem) (s : FmDirs) (ipcFrame : ModemIo) : Option (FmDirs × FmFrame) :=
  (fmResponse sys s (getRequestPacket ipcFrame.data)).bind fun r =>
    (r.2.respBuf.copy (r.2.header.packetLen - (4 + 4))).map fun payload =>
      (r.1, r.2.frame ipcFrame payload)

end Mocha.Ipc
