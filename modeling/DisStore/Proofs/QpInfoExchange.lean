import DisStore.QpInfo
import DisStore.Lib.Run

/-!
# The exchange survives any fragmentation

Whatever pieces the calls transfer and however often they are interrupted, what has been read
and what is in the socket is a prefix of the message followed by what the sender wrote later.
A complete read therefore has the message, and what is left is the later data.
-/

namespace DisStore

/-- What both loops still have to transfer. -/
def Exchange.pending (msg : List UInt8) (s : Exchange) : Nat :=
  msg.length - s.writer.totWritten + s.reader.len

/-- A call that transfers a piece. -/
def ExchangeEvent.transfers : ExchangeEvent → Prop
  | .write (.bytes n) | .read (.bytes n) => 0 < n
  | .write .interrupted | .write .failed | .read .interrupted | .read .failed | .send _ | .close =>
    False

end DisStore

namespace DisStore.Proofs
open DisStore DisStore.Lib

variable {msg : List UInt8} {s s' : Exchange}

@[simp] lemma toWire_length (o : ByteOrder) (info : QPInfo) :
    (info.toWire o).length = QPInfo.size := by
  simp [QPInfo.toWire, QPInfo.size]

lemma wire_fields {a b c d : List UInt8} (ha : a.length = 2) (hb : b.length = 4)
    (hc : c.length = 4) (hd : d.length = 8) :
    (a ++ b ++ c ++ d).take 2 = a ∧ ((a ++ b ++ c ++ d).drop 2).take 4 = b ∧
      ((a ++ b ++ c ++ d).drop 6).take 4 = c ∧ ((a ++ b ++ c ++ d).drop 10).take 8 = d := by
  have hfirst : (a ++ (b ++ (c ++ d))).drop 2 = b ++ (c ++ d) := List.drop_left' ha
  have hsecond : (a ++ (b ++ (c ++ d))).drop 6 = c ++ d := by
    rw [show 6 = 2 + 4 by rfl, ← List.drop_drop, hfirst, List.drop_left' hb]
  have hthird : (a ++ (b ++ (c ++ d))).drop 10 = d := by
    rw [show 10 = 6 + 4 by rfl, ← List.drop_drop, hsecond, List.drop_left' hc]
  rw [List.append_assoc, List.append_assoc, hfirst, hsecond, hthird]
  exact ⟨List.take_left' ha, List.take_left' hb, List.take_left' hc, List.take_of_length_le hd.le⟩

/-- The receiver reads the fields that the sender stored, whatever their byte orders are. -/
lemma ofWire_toWire (o o' : ByteOrder) (info : QPInfo) :
    QPInfo.ofWire o' (info.toWire o) = info := by
  have hlid := hton_roundtrip o o' (w := 2) info.lid.toNat_lt
  have hqp := hton_roundtrip o o' (w := 4) info.qpNum.toNat_lt
  have hrkey := hton_roundtrip o o' (w := 4) info.rkey.toNat_lt
  have hraddr := hton_roundtrip o o' (w := 8) info.raddr.toNat_lt
  obtain ⟨h2, h6, h10, hend⟩ := wire_fields (bytesOf_length o 2 (hton o 2 info.lid.toNat))
    (bytesOf_length o 4 (hton o 4 info.qpNum.toNat))
    (bytesOf_length o 4 (hton o 4 info.rkey.toNat))
    (bytesOf_length o 8 (hton o 8 info.raddr.toNat))
  unfold QPInfo.ofWire QPInfo.toWire QPInfo.htons QPInfo.htonl QPInfo.htonll
  rw [h2, h6, h10, hend, hlid, hqp, hrkey, hraddr, UInt16.ofNat_toNat, UInt32.ofNat_toNat,
    UInt32.ofNat_toNat, UInt64.ofNat_toNat]

/-- What the bookkeeping of the two loops means for the bytes. -/
structure ExchangeInv (msg : List UInt8) (s : Exchange) : Prop where
  written : s.writer.totWritten ≤ msg.length
  writing : s.writer.ret = none → s.writer.totWritten < msg.length
  wrote : ∀ r, s.writer.ret = some r → r = -1 ∨ r = msg.length ∧ s.writer.totWritten = msg.length
  later : s.later ≠ [] → s.writer.totWritten = msg.length
  stream : s.reader.buf ++ s.pipe = msg.take s.writer.totWritten ++ s.later
  counted : s.reader.len + s.reader.totRead = msg.length
  stored : s.reader.buf.length = s.reader.totRead
  reading : s.reader.ret = none → 0 < s.reader.len
  read : ∀ r, s.reader.ret = some r → r = -1 ∨ r = s.reader.totRead ∧
    (s.reader.len = 0 ∨ s.closed = true ∧ s.pipe = [])

lemma exchangeInv_init (h : msg.length = QPInfo.size) : ExchangeInv msg exchangeInit := by
  have hsize : QPInfo.size = 18 := rfl
  constructor <;> simp [exchangeInit, h, hsize]

/-- On an open socket `sock_read` has only returned because of an error or at its end. -/
lemma ExchangeInv.read_open (h : ExchangeInv msg s) (hopen : s.closed = false) {r : Int}
    (hr : s.reader.ret = some r) : r = -1 ∨ r = s.reader.totRead ∧ s.reader.len = 0 := by
  refine (h.read r hr).imp id fun ⟨hcount, hend⟩ => ⟨hcount, hend.resolve_right ?_⟩
  rintro ⟨hclosed, -⟩
  rw [hopen] at hclosed
  cases hclosed

lemma ExchangeInv.writeBytes (h : ExchangeInv msg s) {n : Nat} (hret : s.writer.ret = none)
    (hn : 1 ≤ n) (hle : n ≤ msg.length - s.writer.totWritten) (hopen : s.closed = false) :
    ExchangeInv msg { s with
      writer := s.writer.iterate msg.length (.bytes n)
      pipe := s.pipe ++ (msg.drop s.writer.totWritten).take n } := by
  have hlt := h.writing hret
  have hnone : s.later = [] := by
    by_contra hne
    have hfull := h.later hne
    omega
  have hiter : s.writer.iterate msg.length (.bytes n) =
      { totWritten := s.writer.totWritten + n
        ret := if s.writer.totWritten + n < msg.length then none
          else some ((s.writer.totWritten + n : Nat) : Int) } := by
    rw [WriteLoop.iterate, if_neg (by omega)]
  rw [hiter]
  refine ⟨?_, ?_, ?_, fun hne => (hne hnone).elim, ?_, h.counted, h.stored, h.reading, ?_⟩
  · dsimp only
    omega
  · dsimp only
    split
    · exact fun _ => by assumption
    · exact fun hr => by cases hr
  · dsimp only
    split
    · exact fun r hr => by cases hr
    · intro r hr
      obtain rfl := Option.some_inj.mp hr
      omega
  · have hstream := h.stream
    dsimp only
    rw [hnone, List.append_nil] at hstream ⊢
    rw [← List.append_assoc, hstream, List.take_add]
  · intro r hr
    exact (h.read_open hopen hr).imp id fun ⟨hcount, hlen⟩ => ⟨hcount, .inl hlen⟩

lemma ExchangeInv.readBytes (h : ExchangeInv msg s) {n : Nat}
    (hn : 1 ≤ n ∧ n ≤ s.reader.len ∧ n ≤ s.pipe.length) :
    ExchangeInv msg { s with
      reader := s.reader.iterate (s.pipe.take n) (.bytes n)
      pipe := s.pipe.drop n } := by
  have hcounted := h.counted
  have hiter : s.reader.iterate (s.pipe.take n) (.bytes n) =
      { len := s.reader.len - n
        totRead := s.reader.totRead + n
        buf := s.reader.buf ++ s.pipe.take n
        ret := if s.reader.len - n = 0 then some ((s.reader.totRead + n : Nat) : Int)
          else none } := by
    rw [ReadLoop.iterate, if_neg (by omega)]
  rw [hiter]
  refine ⟨h.written, h.writing, h.wrote, h.later, ?_, ?_, ?_, ?_, ?_⟩
  · dsimp only
    rw [List.append_assoc, List.take_append_drop]
    exact h.stream
  · dsimp only
    omega
  · dsimp only
    rw [List.length_append, h.stored, List.length_take]
    omega
  · dsimp only
    split
    · exact fun hr => by cases hr
    · exact fun _ => by omega
  · dsimp only
    split
    · intro r hr
      exact .inr ⟨(Option.some_inj.mp hr).symm, .inl (by assumption)⟩
    · exact fun r hr => by cases hr

lemma ExchangeInv.readEnd (h : ExchangeInv msg s) (hpipe : s.pipe = []) (hclosed : s.closed = true) :
    ExchangeInv msg { s with
      reader := s.reader.iterate (s.pipe.take 0) (.bytes 0)
      pipe := s.pipe.drop 0 } := by
  have hiter : s.reader.iterate (s.pipe.take 0) (.bytes 0) =
      { s.reader with ret := some (s.reader.totRead : Int) } := rfl
  rw [hiter, List.drop_zero]
  refine ⟨h.written, h.writing, h.wrote, h.later, h.stream, h.counted, h.stored, ?_, ?_⟩
  · exact fun hr => by cases hr
  · intro r hr
    exact .inr ⟨(Option.some_inj.mp hr).symm, .inr ⟨hclosed, hpipe⟩⟩

lemma ExchangeInv.step (h : ExchangeInv msg s) {e : ExchangeEvent}
    (he : exchangeStep msg s e = some s') : ExchangeInv msg s' := by
  cases e with
  | write r =>
    simp only [exchangeStep, Option.ite_none_right_eq_some] at he
    obtain ⟨⟨hret, hopen⟩, he⟩ := he
    cases r with
    | bytes n =>
      simp only [Option.ite_none_right_eq_some, Option.some_inj] at he
      obtain ⟨⟨hn, hle⟩, rfl⟩ := he
      exact h.writeBytes hret hn hle hopen
    | interrupted =>
      obtain rfl := Option.some_inj.mp he
      exact h
    | failed =>
      obtain rfl := Option.some_inj.mp he
      refine ⟨h.written, ?_, ?_, h.later, h.stream, h.counted, h.stored, h.reading, h.read⟩
      · exact fun hr => by cases hr
      · intro r hr
        exact .inl (Option.some_inj.mp hr).symm
  | read r =>
    simp only [exchangeStep, Option.ite_none_right_eq_some] at he
    obtain ⟨-, he⟩ := he
    cases r with
    | bytes n =>
      simp only [Option.ite_none_right_eq_some, Option.some_inj] at he
      obtain ⟨hn | ⟨rfl, hpipe, hclosed⟩, rfl⟩ := he
      · exact h.readBytes hn
      · exact h.readEnd hpipe hclosed
    | interrupted =>
      obtain rfl := Option.some_inj.mp he
      exact h
    | failed =>
      obtain rfl := Option.some_inj.mp he
      refine ⟨h.written, h.writing, h.wrote, h.later, h.stream, h.counted, h.stored, ?_, ?_⟩
      · exact fun hr => by cases hr
      · intro r hr
        exact .inl (Option.some_inj.mp hr).symm
  | send bytes =>
    simp only [exchangeStep, Option.ite_none_right_eq_some, Option.some_inj] at he
    obtain ⟨⟨hret, hopen⟩, rfl⟩ := he
    have hfull : s.writer.totWritten = msg.length := by
      rcases h.wrote _ hret with hneg | ⟨-, hfull⟩
      · omega
      · exact hfull
    refine ⟨h.written, h.writing, h.wrote, fun _ => hfull, ?_, h.counted, h.stored, h.reading, ?_⟩
    · dsimp only
      rw [← List.append_assoc, h.stream, List.append_assoc]
    · intro r hr
      exact (h.read_open hopen hr).imp id fun ⟨hcount, hlen⟩ => ⟨hcount, .inl hlen⟩
  | close =>
    simp only [exchangeStep, Option.ite_none_right_eq_some, Option.some_inj] at he
    obtain ⟨hopen, rfl⟩ := he
    refine ⟨h.written, h.writing, h.wrote, h.later, h.stream, h.counted, h.stored, h.reading, ?_⟩
    intro r hr
    exact (h.read_open hopen hr).imp id fun ⟨hcount, hlen⟩ => ⟨hcount, .inl hlen⟩

lemma ExchangeInv.complete (h : ExchangeInv msg s) (hret : s.reader.ret = some (msg.length : Int)) :
    s.reader.buf = msg ∧ s.pipe = s.later ∧ s.writer.totWritten = msg.length := by
  have hcounted := h.counted
  have hstored := h.stored
  have hlen : s.reader.buf.length = msg.length := by
    rcases h.read _ hret with hneg | ⟨hcount, -⟩ <;> omega
  have hfull : s.writer.totWritten = msg.length := by
    by_contra hne
    have hwritten := h.written
    have hnone : s.later = [] := by
      by_contra hlater
      exact hne (h.later hlater)
    have hlens := congrArg List.length h.stream
    rw [hnone, List.length_append, List.append_nil, List.length_take] at hlens
    omega
  have hstream := h.stream
  rw [hfull, List.take_length] at hstream
  obtain ⟨hbuf, hpipe⟩ := List.append_inj hstream hlen
  exact ⟨hbuf, hpipe, hfull⟩

lemma ExchangeInv.pending_le (h : ExchangeInv msg s) {e : ExchangeEvent}
    (he : exchangeStep msg s e = some s') :
    s'.pending msg ≤ s.pending msg ∧ (e.transfers → s'.pending msg < s.pending msg) := by
  have hwritten := h.written
  cases e with
  | write r =>
    simp only [exchangeStep, Option.ite_none_right_eq_some] at he
    obtain ⟨-, he⟩ := he
    cases r with
    | bytes n =>
      simp only [Option.ite_none_right_eq_some, Option.some_inj] at he
      obtain ⟨⟨hn, hle⟩, rfl⟩ := he
      have hne : n ≠ 0 := by omega
      simp only [Exchange.pending, WriteLoop.iterate, if_neg hne]
      omega
    | interrupted =>
      obtain rfl := Option.some_inj.mp he
      exact ⟨le_rfl, False.elim⟩
    | failed =>
      obtain rfl := Option.some_inj.mp he
      exact ⟨le_rfl, False.elim⟩
  | read r =>
    simp only [exchangeStep, Option.ite_none_right_eq_some] at he
    obtain ⟨-, he⟩ := he
    cases r with
    | bytes n =>
      simp only [Option.ite_none_right_eq_some, Option.some_inj] at he
      obtain ⟨hn | ⟨rfl, -⟩, rfl⟩ := he
      · have hne : n ≠ 0 := by omega
        simp only [Exchange.pending, ReadLoop.iterate, if_neg hne]
        omega
      · exact ⟨le_rfl, fun hpos => (Nat.lt_irrefl 0 hpos).elim⟩
    | interrupted =>
      obtain rfl := Option.some_inj.mp he
      exact ⟨le_rfl, False.elim⟩
    | failed =>
      obtain rfl := Option.some_inj.mp he
      exact ⟨le_rfl, False.elim⟩
  | send bytes =>
    simp only [exchangeStep, Option.ite_none_right_eq_some, Option.some_inj] at he
    obtain ⟨-, rfl⟩ := he
    exact ⟨le_rfl, False.elim⟩
  | close =>
    simp only [exchangeStep, Option.ite_none_right_eq_some, Option.some_inj] at he
    obtain ⟨-, rfl⟩ := he
    exact ⟨le_rfl, False.elim⟩

lemma exchangeStep_write {n : Nat} (hret : s.writer.ret = none) (hopen : s.closed = false)
    (hn : 1 ≤ n ∧ n ≤ msg.length - s.writer.totWritten) :
    exchangeStep msg s (.write (.bytes n)) = some { s with
      writer := s.writer.iterate msg.length (.bytes n)
      pipe := s.pipe ++ (msg.drop s.writer.totWritten).take n } := by
  simp [exchangeStep, hret, hopen, hn]

lemma exchangeStep_read {n : Nat} (hret : s.reader.ret = none)
    (hn : 1 ≤ n ∧ n ≤ s.reader.len ∧ n ≤ s.pipe.length) :
    exchangeStep msg s (.read (.bytes n)) = some { s with
      reader := s.reader.iterate (s.pipe.take n) (.bytes n)
      pipe := s.pipe.drop n } := by
  simp [exchangeStep, hret, hn]

lemma ExchangeInv.finishWrite (h : ExchangeInv msg s) (hret : s.writer.ret = none)
    (hopen : s.closed = false) :
    ∃ s', exchangeStep msg s (.write (.bytes (msg.length - s.writer.totWritten))) = some s' ∧
      s'.writer.ret = some (msg.length : Int) ∧ s'.reader = s.reader := by
  have hlt := h.writing hret
  have hne : msg.length - s.writer.totWritten ≠ 0 := by omega
  have htot : s.writer.totWritten + (msg.length - s.writer.totWritten) = msg.length := by omega
  refine ⟨_, exchangeStep_write hret hopen ⟨by omega, le_rfl⟩, ?_, rfl⟩
  simp only [WriteLoop.iterate, if_neg hne, htot, lt_irrefl, if_false]

lemma ExchangeInv.finishRead (h : ExchangeInv msg s) (hret : s.reader.ret = none)
    (hwrote : s.writer.ret = some (msg.length : Int)) :
    ∃ s', exchangeStep msg s (.read (.bytes s.reader.len)) = some s' ∧
      s'.reader.ret = some (msg.length : Int) ∧ s'.writer = s.writer := by
  have hpos := h.reading hret
  have hcounted := h.counted
  have hfull : s.writer.totWritten = msg.length := by
    rcases h.wrote _ hwrote with hneg | ⟨-, hfull⟩
    · omega
    · exact hfull
  have hlens := congrArg List.length h.stream
  rw [hfull, List.take_length, List.length_append, List.length_append, h.stored] at hlens
  have hne : s.reader.len ≠ 0 := by omega
  have htot : s.reader.totRead + s.reader.len = msg.length := by omega
  refine ⟨_, exchangeStep_read hret ⟨hpos, le_rfl, by omega⟩, ?_, rfl⟩
  simp only [ReadLoop.iterate, if_neg hne, Nat.sub_self, if_true, htot]

lemma ExchangeInv.completes (h : ExchangeInv msg s) (hret : s.reader.ret = none)
    (hwriter : s.writer.ret = none ∧ s.closed = false ∨ s.writer.ret = some (msg.length : Int)) :
    ∃ acts s', runActions (exchangeStep msg) s acts = some s' ∧
      s'.reader.ret = some (msg.length : Int) ∧ s'.writer.ret = some (msg.length : Int) := by
  rcases hwriter with ⟨hnone, hopen⟩ | hwrote
  · obtain ⟨t, hwrite, hwrote, hreader⟩ := h.finishWrite hnone hopen
    obtain ⟨s', hread, hdone, hwriter⟩ :=
      (h.step hwrite).finishRead (hreader ▸ hret) hwrote
    refine ⟨[.write (.bytes (msg.length - s.writer.totWritten)), .read (.bytes t.reader.len)], s',
      ?_, hdone, hwriter ▸ hwrote⟩
    simp only [runActions, hwrite, hread, Option.bind_some]
  · obtain ⟨s', hread, hdone, hwriter⟩ := h.finishRead hret hwrote
    refine ⟨[.read (.bytes s.reader.len)], s', ?_, hdone, hwriter ▸ hwrote⟩
    simp only [runActions, hread, Option.bind_some]

/-- What holds of the exchange of `info` in every state: a QPInfo that is handed over is the one
that was sent, and the data after it is untouched; `sock_read` and `sock_write` return the full
size, -1 or (after an early close) a short count, and only the full size hands anything over;
without a failure the exchange can be completed, and every piece brings it closer to its end. -/
structure ExchangeOk (o o' : ByteOrder) (info : QPInfo) (s : Exchange) : Prop where
  delivered : ∀ info', s.received o' = some info' →
    info' = info ∧ s.reader.buf = info.toWire o ∧ s.pipe = s.later
  readReturns : ∀ r, s.reader.ret = some r → r = QPInfo.size ∨
    (r = -1 ∨ 0 ≤ r ∧ r < QPInfo.size ∧ s.closed = true) ∧ s.received o' = none
  writeReturns : ∀ r, s.writer.ret = some r → r = QPInfo.size ∨ r = -1 ∧ s.sent = false
  closedEarly : s.closed = true → s.writer.totWritten < QPInfo.size → s.received o' = none
  readFails : ∀ s', exchangeStep (info.toWire o) s (.read .failed) = some s' →
    s'.reader.ret = some (-1)
  writeFails : ∀ s', exchangeStep (info.toWire o) s (.write .failed) = some s' →
    s'.writer.ret = some (-1)
  readEnds : ∀ s', exchangeStep (info.toWire o) s (.read (.bytes 0)) = some s' →
    s'.reader.ret = some (s.reader.totRead : Int) ∧ s.reader.totRead < QPInfo.size
  completes : s.reader.ret = none →
    (s.writer.ret = none ∧ s.closed = false ∨ s.writer.ret = some (QPInfo.size : Int)) →
    ∃ acts s', runActions (exchangeStep (info.toWire o)) s acts = some s' ∧
      s'.received o' = some info ∧ s'.sent = true ∧ s'.pipe = s'.later
  shrinks : ∀ e s', exchangeStep (info.toWire o) s e = some s' →
    s'.pending (info.toWire o) ≤ s.pending (info.toWire o) ∧
      (e.transfers → s'.pending (info.toWire o) < s.pending (info.toWire o))

lemma received_of_ret (o' : ByteOrder) (h : s.reader.ret = some (QPInfo.size : Int)) :
    s.received o' = some (QPInfo.ofWire o' s.reader.buf) := if_pos h

lemma received_eq_none (o' : ByteOrder) (h : s.reader.ret ≠ some (QPInfo.size : Int)) :
    s.received o' = none := if_neg h

lemma ExchangeInv.ok {o : ByteOrder} {info : QPInfo} (h : ExchangeInv (info.toWire o) s)
    (o' : ByteOrder) : ExchangeOk o o' info s := by
  have hsize : (info.toWire o).length = QPInfo.size := toWire_length o info
  have hcounted := h.counted
  have hcomplete : s.reader.ret = some (QPInfo.size : Int) →
      s.reader.buf = info.toWire o ∧ s.pipe = s.later ∧ s.writer.totWritten = QPInfo.size := by
    intro hret
    have hparts := h.complete (hsize ▸ hret)
    rwa [hsize] at hparts
  constructor
  · intro info' hreceived
    by_cases hret : s.reader.ret = some (QPInfo.size : Int)
    · obtain ⟨hbuf, hpipe, -⟩ := hcomplete hret
      rw [received_of_ret o' hret, hbuf, ofWire_toWire] at hreceived
      exact ⟨(Option.some_inj.mp hreceived).symm, hbuf, hpipe⟩
    · rw [received_eq_none o' hret] at hreceived
      cases hreceived
  · intro r hr
    by_cases hfull : r = QPInfo.size
    · exact .inl hfull
    · refine .inr ⟨?_, received_eq_none o' fun hret => hfull (Option.some_inj.mp (hr.symm.trans hret))⟩
      rcases h.read r hr with hneg | ⟨hcount, hlen | ⟨hclosed, -⟩⟩
      · exact .inl hneg
      · omega
      · exact .inr ⟨by omega, by omega, hclosed⟩
  · intro r hr
    rcases h.wrote r hr with hneg | ⟨hfull, -⟩
    · refine .inr ⟨hneg, decide_eq_false fun hret => ?_⟩
      have hboth := Option.some_inj.mp (hr.symm.trans hret)
      omega
    · exact .inl (by omega)
  · intro _ hshort
    refine received_eq_none o' fun hret => ?_
    have hfull := (hcomplete hret).2.2
    omega
  · intro s' hs'
    simp only [exchangeStep, Option.ite_none_right_eq_some, Option.some_inj] at hs'
    rw [← hs'.2]
    rfl
  · intro s' hs'
    simp only [exchangeStep, Option.ite_none_right_eq_some, Option.some_inj] at hs'
    rw [← hs'.2]
    rfl
  · intro s' hs'
    simp only [exchangeStep, Option.ite_none_right_eq_some, Option.some_inj] at hs'
    obtain ⟨hret, -, rfl⟩ := hs'
    have hpos := h.reading hret
    exact ⟨rfl, by omega⟩
  · intro hret hwriter
    rw [← hsize] at hwriter
    obtain ⟨acts, s', hrun, hread, hwrote⟩ := h.completes hret hwriter
    have hinv : ExchangeInv (info.toWire o) s' := by
      have hreach : GuardedRun (exchangeStep (info.toWire o)) (fun _ _ => True) s s' :=
        runActions_reaches acts (fun _ _ _ => trivial) .start hrun
      exact hreach.invariant h fun _ _ _ hi _ hstep => hi.step hstep
    obtain ⟨hbuf, hpipe, -⟩ := hinv.complete hread
    rw [hsize] at hread hwrote
    refine ⟨acts, s', hrun, ?_, decide_eq_true hwrote, hpipe⟩
    rw [received_of_ret o' hread, hbuf, ofWire_toWire]
  · intro e s' he
    exact h.pending_le he

/-- For every value, every pair of byte orders and every run of the two ends. -/
theorem qp_info_exchange_survives_fragmentation (o o' : ByteOrder) (info : QPInfo) (s : Exchange)
    (h : GuardedRun (exchangeStep (info.toWire o)) (fun _ _ => True) exchangeInit s) :
    ExchangeOk o o' info s := by
  have hinv : ExchangeInv (info.toWire o) s :=
    h.invariant (exchangeInv_init (toWire_length o info)) fun _ _ _ hi _ he => hi.step he
  exact hinv.ok o'

/-- A little-endian sender and a big-endian receiver, with pieces, interruptions and a later
message. -/
theorem qp_info_exchange_survives_fragmentation_pieces :
    ∃ s, runActions (exchangeStep (QPInfo.toWire .little ⟨1, 0x0203, 0x04050607, 0x08⟩))
        exchangeInit
        [.write (.bytes 5), .read .interrupted, .read (.bytes 3), .write .interrupted,
          .write (.bytes 13), .send [42], .read (.bytes 9), .read (.bytes 6), .close] = some s ∧
      s.received .big = some ⟨1, 0x0203, 0x04050607, 0x08⟩ ∧ s.pipe = [42] := by
  obtain ⟨s, hrun, hret, hlater⟩ : ∃ s, runActions
      (exchangeStep (QPInfo.toWire .little ⟨1, 0x0203, 0x04050607, 0x08⟩)) exchangeInit
      [.write (.bytes 5), .read .interrupted, .read (.bytes 3), .write .interrupted,
        .write (.bytes 13), .send [42], .read (.bytes 9), .read (.bytes 6), .close] = some s ∧
        s.reader.ret = some (QPInfo.size : Int) ∧ s.later = [42] := ⟨_, rfl, rfl, rfl⟩
  have hok := qp_info_exchange_survives_fragmentation .little .big _ s
    (runActions_reaches _ (fun _ _ _ => trivial) .start hrun)
  have hreceived := received_of_ret .big hret
  obtain ⟨hinfo, -, hpipe⟩ := hok.delivered _ hreceived
  exact ⟨s, hrun, hinfo ▸ hreceived, hpipe.trans hlater⟩

end DisStore.Proofs
