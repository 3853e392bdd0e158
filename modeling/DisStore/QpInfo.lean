import DisStore.Lib.Bytes

/-!
# The exchange of queue-pair information

`sock_set_qp_info` and `sock_get_qp_info` of `test/simulation/setup_ib.h` at the two ends of a
stream socket. `sock_write` and `sock_read` are given by their iterations, one for each result
of `write` and `read`; the socket keeps the bytes that are written and not yet read.
-/

namespace DisStore
open DisStore.Lib

/-- `struct QPInfo` -/
structure QPInfo where
  lid : UInt16
  qpNum : UInt32
  rkey : UInt32
  raddr : UInt64
  deriving DecidableEq

namespace QPInfo

/-- `sizeof(struct QPInfo)`, which is packed. -/
def size : Nat := 2 + 4 + 4 + 8

def htons (o : ByteOrder) (x : Nat) : Nat := hton o 2 x
def htonl (o : ByteOrder) (x : Nat) : Nat := hton o 4 x
def htonll (o : ByteOrder) (x : Nat) : Nat := hton o 8 x

/-- `tmp_qp_info` of `sock_set_qp_info` in the memory of the sender. -/
def toWire (o : ByteOrder) (info : QPInfo) : List UInt8 :=
  bytesOf o 2 (htons o info.lid.toNat) ++ bytesOf o 4 (htonl o info.qpNum.toNat) ++
    bytesOf o 4 (htonl o info.rkey.toNat) ++ bytesOf o 8 (htonll o info.raddr.toNat)

/-- `qp_info` of `sock_get_qp_info`, from `tmp_qp_info` in the memory of the receiver; `ntohs`,
`ntohl` and `ntohll` are the same functions. -/
def ofWire (o : ByteOrder) (bytes : List UInt8) : QPInfo :=
  { lid := UInt16.ofNat (htons o (valueOf o (bytes.take 2)))
    qpNum := UInt32.ofNat (htonl o (valueOf o ((bytes.drop 2).take 4)))
    rkey := UInt32.ofNat (htonl o (valueOf o ((bytes.drop 6).take 4)))
    raddr := UInt64.ofNat (htonll o (valueOf o ((bytes.drop 10).take 8))) }

end QPInfo

/-- What `read` or `write` returns: a number of bytes (0 from `read` is the end of the stream),
or -1 with `errno` being EINTR or not. -/
inductive CallResult
  | bytes (n : Nat)
  | interrupted
  | failed
  deriving DecidableEq

/-- `sock_write` between two calls of `write`. -/
structure WriteLoop where
  totWritten : Nat
  ret : Option Int
  deriving DecidableEq

/-- `sock_read` between two calls of `read`; `buf` is what has been stored so far. -/
structure ReadLoop where
  len : Nat
  totRead : Nat
  buf : List UInt8
  ret : Option Int
  deriving DecidableEq

/-- One iteration of `sock_write` of `len` bytes. -/
def WriteLoop.iterate (w : WriteLoop) (len : Nat) : CallResult → WriteLoop
  | .bytes n =>
    if n = 0 then { w with ret := some (-1) }
    else
      let totWritten := w.totWritten + n
      { totWritten := totWritten
        ret := if totWritten < len then none else some totWritten }
  | .interrupted => w
  | .failed => { w with ret := some (-1) }

/-- One iteration of `sock_read`, with the bytes that `read` has stored. -/
def ReadLoop.iterate (r : ReadLoop) (stored : List UInt8) : CallResult → ReadLoop
  | .bytes n =>
    if n = 0 then { r with ret := some r.totRead }
    else
      let len := r.len - n
      { len := len
        totRead := r.totRead + n
        buf := r.buf ++ stored
        ret := if len = 0 then some ((r.totRead + n : Nat) : Int) else none }
  | .interrupted => r
  | .failed => { r with ret := some (-1) }

/-- The two ends and the socket. `later` is what the sender has written after its message. -/
structure Exchange where
  writer : WriteLoop
  reader : ReadLoop
  pipe : List UInt8
  later : List UInt8
  closed : Bool

def exchangeInit : Exchange :=
  { writer := ⟨0, none⟩
    reader := ⟨QPInfo.size, 0, [], none⟩
    pipe := []
    later := []
    closed := false }

inductive ExchangeEvent
  | write (r : CallResult)
  | read (r : CallResult)
  | send (bytes : List UInt8)
  | close
  deriving DecidableEq

/-- One call of either end. `write` takes a non-empty piece of what is left, `read` returns a
non-empty piece of what is there, or 0 at the end of a closed stream; the sender may write more
after its message and may close the socket at any time. -/
def exchangeStep (msg : List UInt8) (s : Exchange) : ExchangeEvent → Option Exchange
  | .write r =>
    if s.writer.ret = none ∧ s.closed = false then
      match r with
      | .bytes n =>
        if 1 ≤ n ∧ n ≤ msg.length - s.writer.totWritten then
          some { s with
            writer := s.writer.iterate msg.length r
            pipe := s.pipe ++ (msg.drop s.writer.totWritten).take n }
        else none
      | .interrupted | .failed => some { s with writer := s.writer.iterate msg.length r }
    else none
  | .read r =>
    if s.reader.ret = none then
      match r with
      | .bytes n =>
        if (1 ≤ n ∧ n ≤ s.reader.len ∧ n ≤ s.pipe.length) ∨
            (n = 0 ∧ s.pipe = [] ∧ s.closed = true) then
          some { s with
            reader := s.reader.iterate (s.pipe.take n) r
            pipe := s.pipe.drop n }
        else none
      | .interrupted | .failed => some { s with reader := s.reader.iterate [] r }
    else none
  | .send bytes =>
    if s.writer.ret = some (msg.length : Int) ∧ s.closed = false then
      some { s with pipe := s.pipe ++ bytes, later := s.later ++ bytes }
    else none
  | .close => if s.closed = false then some { s with closed := true } else none

/-- What `sock_get_qp_info` hands over when `sock_read` has returned; otherwise it dies. -/
def Exchange.received (o : ByteOrder) (s : Exchange) : Option QPInfo :=
  if s.reader.ret = some (QPInfo.size : Int) then some (QPInfo.ofWire o s.reader.buf) else none

/-- `sock_set_qp_info` returns; otherwise it dies. -/
def Exchange.sent (s : Exchange) : Bool := decide (s.writer.ret = some (QPInfo.size : Int))

end DisStore
