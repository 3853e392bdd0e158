import DisStore.QpInfo
import Mathlib.Logic.Function.Basic

/-!
# Connecting two queue pairs

`connect_qp_client` and `connect_qp_server` of `test/simulation/setup_ib.h` on the two ends of a
stream socket: the ends exchange their `QPInfo`, bring the queue pair to RTS and then wait for
each other with a message whose content nobody looks at. An event is one call of `write`, `read`
or `ibv_modify_qp`. An end that dies exits, which closes its socket.
-/

namespace DisStore
open DisStore.Lib

inductive Side where
  | client | server
  deriving DecidableEq

def Side.peer : Side → Side
  | .client => .server
  | .server => .client

inductive HandshakeOp where
  | setQpInfo | getQpInfo
  -- `ib_res.rkey` and `ib_res.raddr`
  | storeRemote
  -- `modify_qp_to_rts`
  | qpToInit | qpToRtr | qpToRts
  | writeSync | readSync
  deriving DecidableEq

def connectQpClient : List HandshakeOp :=
  [.setQpInfo, .getQpInfo, .storeRemote, .qpToInit, .qpToRtr, .qpToRts, .writeSync, .readSync]

def connectQpServer : List HandshakeOp :=
  [.getQpInfo, .setQpInfo, .storeRemote, .qpToInit, .qpToRtr, .qpToRts, .readSync, .writeSync]

def connectQp : Side → List HandshakeOp
  | .client => connectQpClient
  | .server => connectQpServer

/-- `sizeof(SOCK_SYNC_MSG)` -/
def syncSize : Nat := 5

/-- The length that an operation gives to `sock_read`. -/
def HandshakeOp.reads : HandshakeOp → Nat
  | .getQpInfo => QPInfo.size
  | .readSync => syncSize
  | _ => 0

/-- The length that an operation gives to `sock_write`. -/
def HandshakeOp.writes : HandshakeOp → Nat
  | .setQpInfo => QPInfo.size
  | .writeSync => syncSize
  | _ => 0

/-- The state of a queue pair; from RTR on it has the peer's number and lid. -/
inductive QpState where
  | reset
  | init
  | rtr (destQpNum : UInt32) (dlid : UInt16)
  | rts (destQpNum : UInt32) (dlid : UInt16)
  deriving DecidableEq

structure Endpoint where
  order : ByteOrder
  localQpInfo : QPInfo
  done : List HandshakeOp
  todo : List HandshakeOp
  writer : WriteLoop
  reader : ReadLoop
  /-- The bytes of `sock_buf` that are used. -/
  sockBuf : List UInt8
  remoteQpInfo : Option QPInfo
  /-- `ib_res.rkey` and `ib_res.raddr` -/
  ibRes : Option (UInt32 × UInt64)
  qp : QpState
  dead : Bool

/-- The length that the operation at the head of a list gives to `sock_read` or `sock_write`. -/
def headLen (f : HandshakeOp → Nat) (todo : List HandshakeOp) : Nat := (todo.head?.map f).getD 0

/-- The loops of the first operation of a list before their first call. -/
def startReader (todo : List HandshakeOp) : ReadLoop :=
  { len := headLen HandshakeOp.reads todo, totRead := 0, buf := [], ret := none }

def startWriter : WriteLoop := { totWritten := 0, ret := none }

def Endpoint.init (side : Side) (order : ByteOrder) (info : QPInfo) : Endpoint where
  order := order
  localQpInfo := info
  done := []
  todo := connectQp side
  writer := startWriter
  reader := startReader (connectQp side)
  sockBuf := List.replicate syncSize 0
  remoteQpInfo := none
  ibRes := none
  qp := .reset
  dead := false

namespace Endpoint

/-- What an operation gives to `sock_write`; nothing is copied to `sock_buf` before. -/
def message (e : Endpoint) : HandshakeOp → List UInt8
  | .setQpInfo => e.localQpInfo.toWire e.order
  | .writeSync => e.sockBuf
  | _ => []

/-- What an operation does with the bytes that `sock_read` has stored. -/
def received (e : Endpoint) (buf : List UInt8) : HandshakeOp → Endpoint
  | .getQpInfo => { e with remoteQpInfo := some (QPInfo.ofWire e.order buf) }
  | .readSync => { e with sockBuf := buf }
  | _ => e

def next (e : Endpoint) (op : HandshakeOp) (rest : List HandshakeOp) : Endpoint :=
  { e with
    done := e.done ++ [op]
    todo := rest
    writer := startWriter
    reader := startReader rest }

def die (e : Endpoint) : Endpoint := { e with dead := true }

/-- After a call of `write`; a total that is not the length is fatal. -/
def afterWrite (e : Endpoint) (op : HandshakeOp) (rest : List HandshakeOp) (r : CallResult) :
    Endpoint :=
  let writer := e.writer.iterate op.writes r
  match writer.ret with
  | none => { e with writer := writer }
  | some n => if n = op.writes then e.next op rest else e.die

/-- After a call of `read`. -/
def afterRead (e : Endpoint) (op : HandshakeOp) (rest : List HandshakeOp) (stored : List UInt8)
    (r : CallResult) : Endpoint :=
  let reader := e.reader.iterate stored r
  match reader.ret with
  | none => { e with reader := reader }
  | some n => if n = op.reads then (e.received reader.buf op).next op rest else e.die

/-- The operations without the socket; `ibv_modify_qp` may fail. -/
def own (e : Endpoint) (ok : Bool) : Option Endpoint :=
  match e.todo with
  | .storeRemote :: rest => e.remoteQpInfo.map fun info =>
      { e with ibRes := some (info.rkey, info.raddr) }.next .storeRemote rest
  | .qpToInit :: rest => some (if ok then { e with qp := .init }.next .qpToInit rest else e.die)
  | .qpToRtr :: rest => e.remoteQpInfo.map fun info =>
      if ok then { e with qp := .rtr info.qpNum info.lid }.next .qpToRtr rest else e.die
  | .qpToRts :: rest =>
    match e.qp with
    | .rtr destQpNum dlid =>
      some (if ok then { e with qp := .rts destQpNum dlid }.next .qpToRts rest else e.die)
    | _ => some e.die
  | _ => none

/-- The socket of this end is closed. -/
def closed (e : Endpoint) : Bool := e.dead || e.todo.isEmpty

end Endpoint

/-- What one side has written, and how much of it the other side has read. -/
structure SockStream where
  bytes : List UInt8
  pos : Nat

def SockStream.unread (t : SockStream) : List UInt8 := t.bytes.drop t.pos

structure Handshake where
  ends : Side → Endpoint
  streams : Side → SockStream

def handshakeInit (orders : Side → ByteOrder) (infos : Side → QPInfo) : Handshake where
  ends side := Endpoint.init side (orders side) (infos side)
  streams _ := ⟨[], 0⟩

inductive HandshakeEvent where
  | write (r : CallResult)
  | read (r : CallResult)
  | own (ok : Bool)
  deriving DecidableEq

/-- `write` takes a non-empty piece of what is left of the message. -/
def writeAllowed (op : HandshakeOp) (e : Endpoint) : CallResult → Bool
  | .bytes n => 1 ≤ n && n ≤ op.writes - e.writer.totWritten
  | .interrupted | .failed => true

/-- `read` returns a non-empty piece of what is there, or 0 at the end of a closed stream. -/
def readAllowed (e peer : Endpoint) (t : SockStream) : CallResult → Bool
  | .bytes n => (1 ≤ n && n ≤ e.reader.len && n ≤ t.unread.length) ||
      (n = 0 && t.unread.isEmpty && peer.closed)
  | .interrupted | .failed => true

def CallResult.count : CallResult → Nat
  | .bytes n => n
  | .interrupted | .failed => 0

/-- One call of one side. -/
def handshakeStep (s : Handshake) : Side × HandshakeEvent → Option Handshake
  | (side, event) =>
    let e := s.ends side
    if e.dead then none
    else
      match event, e.todo with
      | .write r, op :: rest =>
        if op.writes ≠ 0 ∧ writeAllowed op e r then
          let t := s.streams side
          let piece := ((e.message op).drop e.writer.totWritten).take r.count
          some { ends := Function.update s.ends side (e.afterWrite op rest r)
                 streams := Function.update s.streams side { t with bytes := t.bytes ++ piece } }
        else none
      | .read r, op :: rest =>
        let t := s.streams side.peer
        if op.reads ≠ 0 ∧ readAllowed e (s.ends side.peer) t r then
          some { ends := Function.update s.ends side
                   (e.afterRead op rest (t.unread.take r.count) r)
                 streams := Function.update s.streams side.peer
                   { t with pos := t.pos + r.count } }
        else none
      | .own ok, _ =>
        (e.own ok).map fun e' => { s with ends := Function.update s.ends side e' }
      | _, [] => none

end DisStore
