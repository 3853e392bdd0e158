import DisStore.Handshake
import DisStore.Lib.Trace
import DisStore.Proofs.QpInfoExchange

/-!
# Both ends are connected when one of them returns

Whatever pieces the calls transfer, an end that has read the other's `QPInfo` has the values the
other sent, so the queue pairs point at each other. The second message is a barrier: an end
returns only after the queue pair of the other is in RTS. As long as no call fails nobody waits
forever, although both ends block in `read`.
-/

namespace DisStore.Proofs
open DisStore DisStore.Lib

@[simp] lemma peer_peer (i : Side) : i.peer.peer = i := by cases i <;> rfl

lemma peer_ne (i : Side) : i.peer ≠ i := by cases i <;> decide

@[simp] lemma headLen_nil (f : HandshakeOp → Nat) : headLen f [] = 0 := rfl

@[simp] lemma headLen_cons (f : HandshakeOp → Nat) (op : HandshakeOp) (rest : List HandshakeOp) :
    headLen f (op :: rest) = f op := rfl

/-- The loops of the current operation have calls to make. -/
structure LoopInv (e : Endpoint) : Prop where
  writing : e.writer.ret = none
  written : e.writer.totWritten ≤ headLen HandshakeOp.writes e.todo
  unwritten : headLen HandshakeOp.writes e.todo ≠ 0 →
    e.writer.totWritten < headLen HandshakeOp.writes e.todo
  reading : e.reader.ret = none
  counted : e.reader.len + e.reader.totRead = headLen HandshakeOp.reads e.todo
  expecting : headLen HandshakeOp.reads e.todo ≠ 0 → 0 < e.reader.len
  stored : e.reader.buf.length = e.reader.totRead

/-- A call of one end: whether it succeeds, the bytes that it adds to the stream of this end, and
how many it takes from the unread bytes of the other. -/
inductive EndMove (unread : List UInt8) (e : Endpoint) :
    Bool → List UInt8 → Nat → Endpoint → Prop
  | writesPart {op : HandshakeOp} {rest : List HandshakeOp} (n : Nat) : e.todo = op :: rest →
      0 < n → e.writer.totWritten + n < op.writes →
      EndMove unread e true (((e.message op).drop e.writer.totWritten).take n) 0
        { e with writer := ⟨e.writer.totWritten + n, none⟩ }
  | writesRest {op : HandshakeOp} {rest : List HandshakeOp} (n : Nat) : e.todo = op :: rest →
      0 < n → e.writer.totWritten + n = op.writes →
      EndMove unread e true (((e.message op).drop e.writer.totWritten).take n) 0 (e.next op rest)
  | readsPart {op : HandshakeOp} {rest : List HandshakeOp} (n : Nat) : e.todo = op :: rest →
      0 < n → n < e.reader.len → n ≤ unread.length →
      EndMove unread e true [] n { e with
        reader := ⟨e.reader.len - n, e.reader.totRead + n, e.reader.buf ++ unread.take n, none⟩ }
  | readsRest {op : HandshakeOp} {rest : List HandshakeOp} (n : Nat) : e.todo = op :: rest →
      0 < n → n = e.reader.len → n ≤ unread.length →
      EndMove unread e true [] n ((e.received (e.reader.buf ++ unread.take n) op).next op rest)
  | stores {rest : List HandshakeOp} (info : QPInfo) : e.todo = .storeRemote :: rest →
      e.remoteQpInfo = some info →
      EndMove unread e true [] 0
        ({ e with ibRes := some (info.rkey, info.raddr) }.next .storeRemote rest)
  | inits {rest : List HandshakeOp} : e.todo = .qpToInit :: rest →
      EndMove unread e true [] 0 ({ e with qp := .init }.next .qpToInit rest)
  | receives {rest : List HandshakeOp} (info : QPInfo) : e.todo = .qpToRtr :: rest →
      e.remoteQpInfo = some info →
      EndMove unread e true [] 0 ({ e with qp := .rtr info.qpNum info.lid }.next .qpToRtr rest)
  | sends {rest : List HandshakeOp} (destQpNum : UInt32) (dlid : UInt16) :
      e.todo = .qpToRts :: rest → e.qp = .rtr destQpNum dlid →
      EndMove unread e true [] 0 ({ e with qp := .rts destQpNum dlid }.next .qpToRts rest)
  | repeats : EndMove unread e false [] 0 e
  | dies : e.todo ≠ [] → EndMove unread e false [] 0 e.die

section Moves

variable {e e' : Endpoint} {op : HandshakeOp} {rest : List HandshakeOp} {unread : List UInt8}

lemma endMove_write {r : CallResult} (h : LoopInv e) (htodo : e.todo = op :: rest)
    (hr : writeAllowed op e r = true) :
    EndMove unread e (decide (r.count ≠ 0))
      (((e.message op).drop e.writer.totWritten).take r.count) 0 (e.afterWrite op rest r) := by
  have hret := h.writing
  cases r with
  | bytes n =>
    simp only [writeAllowed, Bool.and_eq_true, decide_eq_true_eq] at hr
    have hcount : decide ((CallResult.bytes n).count ≠ 0) = true :=
      decide_eq_true (Nat.pos_iff_ne_zero.mp hr.1)
    have hiter : e.writer.iterate op.writes (.bytes n) =
        ⟨e.writer.totWritten + n, if e.writer.totWritten + n < op.writes then none
          else some ((e.writer.totWritten + n : Nat) : Int)⟩ := by
      rw [WriteLoop.iterate, if_neg (by omega)]
    rw [Endpoint.afterWrite, hiter, hcount]
    by_cases hlt : e.writer.totWritten + n < op.writes
    · simp only [if_pos hlt]
      exact .writesPart n htodo hr.1 hlt
    · have hall : e.writer.totWritten + n = op.writes := by omega
      simp only [hall, lt_irrefl, if_false, if_true]
      exact .writesRest n htodo hr.1 hall
  | interrupted =>
    rw [Endpoint.afterWrite, WriteLoop.iterate]
    simp only [hret, CallResult.count, List.take_zero]
    exact .repeats
  | failed =>
    have hne : ((-1 : Int) = (op.writes : Int)) = False := by
      rw [eq_iff_iff, iff_false]
      omega
    simp only [Endpoint.afterWrite, WriteLoop.iterate, CallResult.count, List.take_zero, hne,
      if_false]
    exact .dies (by simp [htodo])

lemma endMove_read {r : CallResult} {peer : Endpoint} {t : SockStream} (h : LoopInv e)
    (htodo : e.todo = op :: rest) (hop : op.reads ≠ 0) (hr : readAllowed e peer t r = true) :
    EndMove t.unread e (decide (r.count ≠ 0)) [] r.count
      (e.afterRead op rest (t.unread.take r.count) r) := by
  have hcounted := h.counted
  have hpos := h.expecting
  rw [htodo, headLen_cons] at hcounted hpos
  have hpos := hpos hop
  cases r with
  | bytes n =>
    by_cases hn : n = 0
    · -- the end of the stream comes before the message is complete
      subst hn
      have hne : ((e.reader.totRead : Int) = (op.reads : Int)) = False := by
        rw [eq_iff_iff, iff_false]
        omega
      simp only [Endpoint.afterRead, ReadLoop.iterate, if_true, hne, if_false, CallResult.count]
      exact .dies (by simp [htodo])
    simp only [readAllowed, Bool.or_eq_true, Bool.and_eq_true, decide_eq_true_eq, hn, false_and,
      or_false] at hr
    obtain ⟨⟨hone, hle⟩, hunread⟩ := hr
    have hiter : e.reader.iterate (t.unread.take n) (.bytes n) =
        ⟨e.reader.len - n, e.reader.totRead + n, e.reader.buf ++ t.unread.take n,
          if e.reader.len - n = 0 then some ((e.reader.totRead + n : Nat) : Int) else none⟩ := by
      rw [ReadLoop.iterate, if_neg hn]
    have hcount : decide ((CallResult.bytes n).count ≠ 0) = true := decide_eq_true hn
    rw [hcount, CallResult.count, Endpoint.afterRead, hiter]
    by_cases hend : e.reader.len - n = 0
    · have hall : e.reader.totRead + n = op.reads := by omega
      simp only [if_pos hend, hall, if_true]
      exact .readsRest n htodo hone (by omega) hunread
    · simp only [if_neg hend]
      exact .readsPart n htodo hone (by omega) hunread
  | interrupted =>
    have hret := h.reading
    simp only [Endpoint.afterRead, ReadLoop.iterate, hret, CallResult.count]
    exact .repeats
  | failed =>
    have hne : ((-1 : Int) = (op.reads : Int)) = False := by
      rw [eq_iff_iff, iff_false]
      omega
    simp only [Endpoint.afterRead, ReadLoop.iterate, CallResult.count, hne, if_false]
    exact .dies (by simp [htodo])

lemma endMove_own {ok : Bool} (he : e.own ok = some e') :
    ∃ success, EndMove unread e success [] 0 e' ∧
      (ok = true → success = true ∨
        e.todo.head? = some .qpToRts ∧ ∀ destQpNum dlid, e.qp ≠ .rtr destQpNum dlid) := by
  revert he
  fun_cases Endpoint.own e ok with
  | case1 rest htodo =>
    intro he
    obtain ⟨info, hinfo, rfl⟩ := Option.map_eq_some_iff.mp he
    exact ⟨true, .stores info htodo hinfo, fun _ => .inl rfl⟩
  | case2 rest htodo =>
    rintro ⟨⟩
    split
    · exact ⟨true, .inits htodo, fun _ => .inl rfl⟩
    · exact ⟨false, .dies (by simp [htodo]), fun hok => absurd hok ‹_›⟩
  | case3 rest htodo =>
    intro he
    obtain ⟨info, hinfo, rfl⟩ := Option.map_eq_some_iff.mp he
    split
    · exact ⟨true, .receives info htodo hinfo, fun _ => .inl rfl⟩
    · exact ⟨false, .dies (by simp [htodo]), fun hok => absurd hok ‹_›⟩
  | case4 rest htodo destQpNum dlid hqp =>
    rintro ⟨⟩
    split
    · exact ⟨true, .sends destQpNum dlid htodo hqp, fun _ => .inl rfl⟩
    · exact ⟨false, .dies (by simp [htodo]), fun hok => absurd hok ‹_›⟩
  | case5 rest htodo hqp =>
    rintro ⟨⟩
    exact ⟨false, .dies (by simp [htodo]), fun _ => .inr ⟨by rw [htodo]; rfl, hqp⟩⟩
  | case6 => rintro ⟨⟩

/-- The calls that transfer something, and the changes of a queue pair that are accepted. -/
def succeeds : HandshakeEvent → Bool
  | .write (.bytes _) | .read (.bytes _) | .own true => true
  | _ => false

/-- An end that can only die: the other has closed the socket before it was through, or its queue
pair is not in RTR. -/
def Stalled (s : Handshake) (i : Side) : Prop :=
  ((s.streams i.peer).unread = [] ∧ (s.ends i.peer).closed = true ∧
      headLen HandshakeOp.reads (s.ends i).todo ≠ 0) ∨
    ((s.ends i).todo.head? = some .qpToRts ∧
      ∀ destQpNum dlid, (s.ends i).qp ≠ .rtr destQpNum dlid)

lemma handshakeStep_move {s s' : Handshake} {i : Side} {event : HandshakeEvent}
    (h : LoopInv (s.ends i)) (hs : handshakeStep s (i, event) = some s') :
    ∃ ok wrote count e', (s.ends i).dead = false ∧
      EndMove (s.streams i.peer).unread (s.ends i) ok wrote count e' ∧
      (succeeds event = true → ok = true ∨ Stalled s i) ∧
      s'.ends = Function.update s.ends i e' ∧
      s'.streams i = ⟨(s.streams i).bytes ++ wrote, (s.streams i).pos⟩ ∧
      s'.streams i.peer =
        ⟨(s.streams i.peer).bytes, (s.streams i.peer).pos + count⟩ := by
  simp only [handshakeStep] at hs
  split at hs
  · cases hs
  next hdead =>
  have hdead : (s.ends i).dead = false := by simpa using hdead
  split at hs
  · next r op rest htodo =>
    simp only [Option.ite_none_right_eq_some, Option.some_inj] at hs
    obtain ⟨⟨-, hr⟩, rfl⟩ := hs
    refine ⟨_, _, 0, _, hdead, endMove_write h htodo hr, fun hok => .inl ?_, rfl,
      Function.update_self .., Function.update_of_ne (peer_ne i) ..⟩
    cases r with
    | bytes n =>
      simp only [writeAllowed, Bool.and_eq_true, decide_eq_true_eq] at hr
      exact decide_eq_true (Nat.pos_iff_ne_zero.mp hr.1)
    | _ => cases hok
  · next r op rest htodo =>
    simp only [Option.ite_none_right_eq_some, Option.some_inj] at hs
    obtain ⟨⟨hop, hr⟩, rfl⟩ := hs
    refine ⟨_, [], _, _, hdead, endMove_read h htodo hop hr, fun hok => ?_, rfl, ?_,
      Function.update_self ..⟩
    · cases r with
      | bytes n =>
        by_cases hn : n = 0
        · simp only [readAllowed, hn, Bool.or_eq_true, Bool.and_eq_true, decide_eq_true_eq] at hr
          obtain ⟨⟨hone, -⟩, -⟩ | ⟨⟨-, hnil⟩, hclosed⟩ := hr
          · omega
          · refine .inr (.inl ⟨List.isEmpty_iff.mp hnil, hclosed, ?_⟩)
            rwa [htodo, headLen_cons]
        · exact .inl (decide_eq_true hn)
      | _ => cases hok
    · rw [List.append_nil]
      exact Function.update_of_ne (peer_ne i).symm ..
  · next ok =>
    obtain ⟨e', he, rfl⟩ := Option.map_eq_some_iff.mp hs
    obtain ⟨success, hmove, hsuccess⟩ := endMove_own he
    refine ⟨success, [], 0, e', hdead, hmove, fun hok => ?_, rfl, by rw [List.append_nil], rfl⟩
    cases ok with
    | true => exact (hsuccess rfl).imp id .inr
    | false => cases hok
  · cases hs

end Moves

section Ends

variable {e e' : Endpoint} {ok : Bool} {unread wrote : List UInt8} {count : Nat}
  {script : List HandshakeOp}

/-- The bytes that an end has written. -/
def sentLen (e : Endpoint) : Nat := (e.done.map HandshakeOp.writes).sum + e.writer.totWritten

/-- The bytes that an end has read. -/
def gotLen (e : Endpoint) : Nat := (e.done.map HandshakeOp.reads).sum + e.reader.totRead

lemma loopInv_start {e : Endpoint} (hwriter : e.writer = startWriter)
    (hreader : e.reader = startReader e.todo) : LoopInv e := by
  constructor <;> simp [hwriter, hreader, startWriter, startReader, headLen] <;> omega

lemma loopInv_next (e : Endpoint) (op : HandshakeOp) (rest : List HandshakeOp) :
    LoopInv (e.next op rest) := loopInv_start rfl rfl

lemma LoopInv.step (h : LoopInv e) (hs : EndMove unread e ok wrote count e') : LoopInv e' := by
  obtain ⟨hwriting, hwritten, hunwritten, hreading, hcounted, hexpecting, hstored⟩ := h
  cases hs with
  | writesPart n htodo hn hlt =>
    refine ⟨rfl, ?_, fun _ => ?_, hreading, hcounted, hexpecting, hstored⟩
    · simpa [htodo] using hlt.le
    · simpa [htodo] using hlt
  | readsPart n htodo hn hlt hle =>
    refine ⟨hwriting, hwritten, hunwritten, rfl, ?_, fun _ => ?_, ?_⟩
    · dsimp only
      omega
    · dsimp only
      omega
    · simp [hstored, hle]
  | repeats => exact ⟨hwriting, hwritten, hunwritten, hreading, hcounted, hexpecting, hstored⟩
  | dies => exact ⟨hwriting, hwritten, hunwritten, hreading, hcounted, hexpecting, hstored⟩
  | _ => exact loopInv_next ..

lemma sentLen_next (e : Endpoint) (op : HandshakeOp) (rest : List HandshakeOp) :
    sentLen (e.next op rest) = (e.done.map HandshakeOp.writes).sum + op.writes := by
  simp [sentLen, Endpoint.next, startWriter]

lemma gotLen_next (e : Endpoint) (op : HandshakeOp) (rest : List HandshakeOp) :
    gotLen (e.next op rest) = (e.done.map HandshakeOp.reads).sum + op.reads := by
  simp [gotLen, Endpoint.next, startReader]

lemma received_done (e : Endpoint) (buf : List UInt8) (op : HandshakeOp) :
    (e.received buf op).done = e.done := by cases op <;> rfl

lemma reads_or_writes (op : HandshakeOp) : op.reads = 0 ∨ op.writes = 0 := by
  cases op <;> simp [HandshakeOp.reads, HandshakeOp.writes]

lemma lens_step (h : LoopInv e) (hs : EndMove unread e ok wrote count e')
    (hmsg : ∀ op, (e.message op).length = op.writes) :
    sentLen e' = sentLen e + wrote.length ∧ gotLen e' = gotLen e + count := by
  have hwritten := h.written
  have hcounted := h.counted
  cases hs with
  | writesPart n htodo hn hlt =>
    refine ⟨?_, rfl⟩
    simp only [sentLen, List.length_take, List.length_drop, hmsg]
    omega
  | @writesRest op rest n htodo hn hall =>
    have hreads := (reads_or_writes op).resolve_right (by omega)
    rw [htodo, headLen_cons] at hcounted
    rw [sentLen_next, gotLen_next, sentLen, gotLen, List.length_take, List.length_drop, hmsg]
    omega
  | readsPart n htodo hn hlt hle => exact ⟨rfl, by simp only [gotLen]; omega⟩
  | @readsRest op rest n htodo hn hall hle =>
    rw [htodo, headLen_cons] at hcounted hwritten
    have hwrites := (reads_or_writes op).resolve_left (by omega)
    rw [sentLen_next, gotLen_next, received_done, sentLen, gotLen, List.length_nil]
    omega
  | stores info htodo | inits htodo | receives info htodo | sends q l htodo =>
    rw [htodo, headLen_cons] at hcounted hwritten
    rw [sentLen_next, gotLen_next, sentLen, gotLen, List.length_nil]
    simp only [HandshakeOp.writes, HandshakeOp.reads] at hcounted hwritten ⊢
    omega
  | repeats | dies => exact ⟨rfl, rfl⟩

lemma wrote_cases (hs : EndMove unread e ok wrote count e') :
    wrote = [] ∨ ∃ op rest n, e.todo = op :: rest ∧ op.writes ≠ 0 ∧
      wrote = ((e.message op).drop e.writer.totWritten).take n := by
  cases hs with
  | @writesPart op rest n htodo hn hlt => exact .inr ⟨op, rest, n, htodo, by omega, rfl⟩
  | @writesRest op rest n htodo hn hall => exact .inr ⟨op, rest, n, htodo, by omega, rfl⟩
  | _ => exact .inl rfl

lemma endMove_config (hs : EndMove unread e ok wrote count e') :
    e'.localQpInfo = e.localQpInfo ∧ e'.order = e.order := by
  cases hs with
  | @readsRest op rest n htodo hn hall hle => cases op <;> exact ⟨rfl, rfl⟩
  | _ => exact ⟨rfl, rfl⟩

lemma count_le (hs : EndMove unread e ok wrote count e') : count ≤ unread.length := by
  cases hs with
  | readsPart n htodo hn hlt hle | readsRest n htodo hn hall hle => exact hle
  | _ => exact Nat.zero_le _

/-- The order of the operations that both scripts keep. -/
def opRank : HandshakeOp → Nat
  | .setQpInfo | .getQpInfo => 0
  | .storeRemote => 1
  | .qpToInit => 2
  | .qpToRtr => 3
  | .qpToRts => 4
  | .writeSync | .readSync => 5

/-- What an end knows of the other, by the operations that it has done. -/
structure EndInv (script : List HandshakeOp) (e : Endpoint) : Prop where
  script : e.done ++ e.todo = script
  loops : LoopInv e
  syncLen : e.sockBuf.length = syncSize
  /-- `getQpInfo` comes before every use of what it reads. -/
  early : .getQpInfo ∈ e.todo → e.ibRes = none ∧ e.qp = .reset
  known : ∀ r, e.ibRes = some r → ∃ info, e.remoteQpInfo = some info ∧ r = (info.rkey, info.raddr)
  dest : ∀ q l, e.qp = .rtr q l ∨ e.qp = .rts q l →
    ∃ info, e.remoteQpInfo = some info ∧ q = info.qpNum ∧ l = info.lid
  stored : .storeRemote ∈ e.done → e.ibRes ≠ none
  connected : .qpToRts ∈ e.done → ∃ q l, e.qp = .rts q l
  fetched : .getQpInfo ∈ e.done → e.remoteQpInfo ≠ none
  linked : .qpToRtr ∈ e.done → .qpToRts ∉ e.done → ∃ q l, e.qp = .rtr q l

lemma EndInv.message_length (h : EndInv script e) (op : HandshakeOp) :
    (e.message op).length = op.writes := by
  cases op <;> simp [Endpoint.message, HandshakeOp.writes, h.syncLen]

lemma script_order {done rest : List HandshakeOp} {op : HandshakeOp}
    (hsorted : (done ++ op :: rest).Pairwise fun a b => opRank a ≤ opRank b)
    (hnodup : (done ++ op :: rest).Nodup) :
    (∀ x ∈ done, opRank x ≤ opRank op) ∧ (∀ x ∈ rest, opRank op ≤ opRank x) ∧ op ∉ rest := by
  rw [List.pairwise_append, List.pairwise_cons] at hsorted
  rw [List.nodup_append, List.nodup_cons] at hnodup
  exact ⟨fun x hx => hsorted.2.2 x hx op List.mem_cons_self, hsorted.2.1.1, hnodup.2.1.1⟩

lemma mem_done_of_ne {done : List HandshakeOp} {x op : HandshakeOp} (hne : x ≠ op)
    (h : x ∈ done ++ [op]) : x ∈ done :=
  (List.mem_append.mp h).resolve_right fun hx => hne (List.mem_singleton.mp hx)

lemma EndInv.next {op : HandshakeOp} {rest : List HandshakeOp} {buf : List UInt8}
    (h : EndInv script e) (htodo : e.todo = op :: rest) (hop : op.writes ≠ 0 ∨ op = .readSync)
    (hbuf : buf.length = syncSize) : EndInv script ({ e with sockBuf := buf }.next op rest) where
  script := by
    rw [← h.script, htodo]
    exact List.append_assoc ..
  loops := loopInv_next ..
  syncLen := hbuf
  early hmem := h.early (htodo ▸ List.mem_cons_of_mem _ hmem)
  known := h.known
  dest := h.dest
  stored hmem := h.stored (mem_done_of_ne (by rintro rfl; simp [HandshakeOp.writes] at hop) hmem)
  connected hmem :=
    h.connected (mem_done_of_ne (by rintro rfl; simp [HandshakeOp.writes] at hop) hmem)
  fetched hmem := h.fetched (mem_done_of_ne (by rintro rfl; simp [HandshakeOp.writes] at hop) hmem)
  linked hmem hnot :=
    h.linked (mem_done_of_ne (by rintro rfl; simp [HandshakeOp.writes] at hop) hmem)
      fun hrts => hnot (List.mem_append_left _ hrts)

lemma EndInv.step (h : EndInv script e) (hsorted : script.Pairwise fun a b => opRank a ≤ opRank b)
    (hnodup : script.Nodup) (hs : EndMove unread e ok wrote count e') : EndInv script e' := by
  have hloops := h.loops.step hs
  have hcounted := h.loops.counted
  have hbuf := h.loops.stored
  have hscript := h.script
  rw [← hscript] at hsorted hnodup
  have hnext : ∀ {op rest}, e.todo = op :: rest → e.done ++ [op] ++ rest = script := by
    intro op rest htodo
    rw [← hscript, htodo, List.append_assoc, List.singleton_append]
  cases hs with
  | writesPart n htodo hn hlt | readsPart n htodo hn hlt hle | repeats | dies =>
    exact ⟨hscript, hloops, h.syncLen, h.early, h.known, h.dest, h.stored, h.connected,
      h.fetched, h.linked⟩
  | @writesRest op rest n htodo hn hall => exact h.next htodo (.inl (by omega)) h.syncLen
  | @readsRest op rest n htodo hn hall hle =>
    rw [htodo] at hsorted hnodup hcounted
    obtain ⟨hbefore, hafter, hnew⟩ := script_order hsorted hnodup
    cases op with
    | getQpInfo =>
      -- nothing that is used has been read before
      obtain ⟨hres, hqp⟩ := h.early (by simp [htodo])
      exact {
        script := hnext htodo
        loops := hloops
        syncLen := h.syncLen
        early := fun hmem => absurd hmem hnew
        known := fun r hr => absurd (hres.symm.trans hr) (by simp)
        dest := fun q l hql => by rcases hql with hql | hql <;> cases hqp.symm.trans hql
        stored := fun hmem => h.stored (mem_done_of_ne (by decide) hmem)
        connected := fun hmem => h.connected (mem_done_of_ne (by decide) hmem)
        fetched := fun _ => Option.some_ne_none _
        linked := fun hmem hnot => h.linked (mem_done_of_ne (by decide) hmem)
          fun hrts => hnot (List.mem_append_left _ hrts) }
    | readSync =>
      refine h.next htodo (.inr rfl) ?_
      rw [headLen_cons, HandshakeOp.reads] at hcounted
      rw [List.length_append, List.length_take, hbuf]
      omega
    | _ =>
      simp only [headLen_cons, HandshakeOp.reads] at hcounted
      omega
  | stores info htodo hinfo =>
    rw [htodo] at hsorted hnodup
    obtain ⟨hbefore, hafter, -⟩ := script_order hsorted hnodup
    exact {
      script := hnext htodo
      loops := hloops
      syncLen := h.syncLen
      early := fun hmem => absurd (hafter _ hmem) (by decide)
      known := fun r hr => ⟨info, hinfo, (Option.some.inj hr).symm⟩
      dest := h.dest
      stored := fun _ => Option.some_ne_none _
      connected := fun hmem => h.connected (mem_done_of_ne (by decide) hmem)
      fetched := fun hmem => h.fetched (mem_done_of_ne (by decide) hmem)
      linked := fun hmem hnot => h.linked (mem_done_of_ne (by decide) hmem)
        fun hrts => hnot (List.mem_append_left _ hrts) }
  | inits htodo =>
    rw [htodo] at hsorted hnodup
    obtain ⟨hbefore, hafter, -⟩ := script_order hsorted hnodup
    exact {
      script := hnext htodo
      loops := hloops
      syncLen := h.syncLen
      early := fun hmem => absurd (hafter _ hmem) (by decide)
      known := h.known
      dest := fun q l hql => by rcases hql with hql | hql <;> cases hql
      stored := fun hmem => h.stored (mem_done_of_ne (by decide) hmem)
      connected := fun hmem => absurd (hbefore _ (mem_done_of_ne (by decide) hmem)) (by decide)
      fetched := fun hmem => h.fetched (mem_done_of_ne (by decide) hmem)
      linked := fun hmem => absurd (hbefore _ (mem_done_of_ne (by decide) hmem)) (by decide) }
  | receives info htodo hinfo =>
    rw [htodo] at hsorted hnodup
    obtain ⟨hbefore, hafter, -⟩ := script_order hsorted hnodup
    exact {
      script := hnext htodo
      loops := hloops
      syncLen := h.syncLen
      early := fun hmem => absurd (hafter _ hmem) (by decide)
      known := h.known
      dest := fun q l hql => by
        rcases hql with hql | hql <;> cases hql
        exact ⟨info, hinfo, rfl, rfl⟩
      stored := fun hmem => h.stored (mem_done_of_ne (by decide) hmem)
      connected := fun hmem => absurd (hbefore _ (mem_done_of_ne (by decide) hmem)) (by decide)
      fetched := fun hmem => h.fetched (mem_done_of_ne (by decide) hmem)
      linked := fun _ _ => ⟨_, _, rfl⟩ }
  | sends q l htodo hqp =>
    rw [htodo] at hsorted hnodup
    obtain ⟨hbefore, hafter, -⟩ := script_order hsorted hnodup
    exact {
      script := hnext htodo
      loops := hloops
      syncLen := h.syncLen
      early := fun hmem => absurd (hafter _ hmem) (by decide)
      known := h.known
      dest := fun q' l' hql => by
        rcases hql with hql | hql <;> cases hql
        exact h.dest q l (.inl hqp)
      stored := fun hmem => h.stored (mem_done_of_ne (by decide) hmem)
      connected := fun _ => ⟨q, l, rfl⟩
      fetched := fun hmem => h.fetched (mem_done_of_ne (by decide) hmem)
      linked := fun _ hnot => absurd (List.mem_append_right _ List.mem_cons_self) hnot }

end Ends

section Scripts

lemma connectQp_sorted (i : Side) :
    (connectQp i).Pairwise fun a b => opRank a ≤ opRank b := by cases i <;> decide

lemma connectQp_nodup (i : Side) : (connectQp i).Nodup := by cases i <;> decide

variable {i : Side} {done todo rest : List HandshakeOp}

lemma script_split (h : done ++ todo = connectQp i) :
    ∃ k ≤ 8, done = (connectQp i).take k ∧ todo = (connectQp i).drop k := by
  have hlen : (connectQp i).length = 8 := by cases i <;> rfl
  refine ⟨done.length, ?_, by simp [← h], by simp [← h]⟩
  rw [← hlen, ← h, List.length_append]
  omega

/-- The bytes before an operation: the `QPInfo` is the first message in both directions. -/
lemma script_before {op : HandshakeOp} (h : done ++ op :: rest = connectQp i) :
    (op = .setQpInfo → (done.map HandshakeOp.writes).sum = 0) ∧
    (op = .getQpInfo → (done.map HandshakeOp.reads).sum = 0) ∧
    (op = .writeSync → (done.map HandshakeOp.writes).sum = QPInfo.size) := by
  obtain ⟨k, hk, rfl, htodo⟩ := script_split h
  have hall : ∀ k ≤ 8, ∀ op, ((connectQp i).drop k).head? = some op →
      (op = .setQpInfo → (((connectQp i).take k).map HandshakeOp.writes).sum = 0) ∧
      (op = .getQpInfo → (((connectQp i).take k).map HandshakeOp.reads).sum = 0) ∧
      (op = .writeSync →
        (((connectQp i).take k).map HandshakeOp.writes).sum = QPInfo.size) := by
    intro k hk op hop
    cases i <;> interval_cases k <;> cases hop <;> decide
  exact hall k hk op (by rw [← htodo]; rfl)

end Scripts

section Connection

/-- What the two ends and the socket have in common. -/
structure HandshakeInv (infos : Side → QPInfo) (s : Handshake) : Prop where
  ends : ∀ i, EndInv (connectQp i) (s.ends i)
  info : ∀ i, (s.ends i).localQpInfo = infos i
  sent : ∀ i, (s.streams i).bytes.length = sentLen (s.ends i)
  got : ∀ i, (s.streams i.peer).pos = gotLen (s.ends i)
  pos : ∀ i, (s.streams i).pos ≤ (s.streams i).bytes.length
  wire : ∀ i, (s.streams i).bytes.take QPInfo.size <+: (infos i).toWire (s.ends i).order
  buf : ∀ i, (s.ends i).todo.head? = some .getQpInfo →
    (s.ends i).reader.buf = (s.streams i.peer).bytes.take (s.ends i).reader.totRead
  remote : ∀ i info, (s.ends i).remoteQpInfo = some info → info = infos i.peer

variable {infos : Side → QPInfo} {s s' : Handshake} {i : Side} {e' : Endpoint} {ok : Bool}
  {wrote : List UInt8} {count : Nat}

lemma HandshakeInv.wire_append {unread : List UInt8}
    (h : HandshakeInv infos s) (hs : EndMove unread (s.ends i) ok wrote count e') :
    ((s.streams i).bytes ++ wrote).take QPInfo.size <+: (infos i).toWire (s.ends i).order := by
  have hwire := h.wire i
  have hsent := h.sent i
  have hwritten := (h.ends i).loops.written
  obtain rfl | ⟨op, rest, n, htodo, hop, rfl⟩ := wrote_cases hs
  · rwa [List.append_nil]
  have hscript := (h.ends i).script
  rw [htodo] at hscript hwritten
  rw [headLen_cons] at hwritten
  obtain ⟨hset, -, hsync⟩ := script_before hscript
  cases op with
  | setQpInfo =>
    rw [sentLen, hset rfl, Nat.zero_add] at hsent
    have hshort : (s.streams i).bytes.length ≤ QPInfo.size := hsent ▸ hwritten
    rw [List.take_of_length_le hshort] at hwire
    have hbytes := List.prefix_iff_eq_take.mp hwire
    have happend : (s.streams i).bytes ++
        (((s.ends i).message .setQpInfo).drop (s.ends i).writer.totWritten).take n =
        ((infos i).toWire (s.ends i).order).take ((s.ends i).writer.totWritten + n) := by
      rw [Endpoint.message, h.info i, List.take_add, ← hsent, ← hbytes]
    rw [happend]
    exact (List.take_prefix _ _).trans (List.take_prefix _ _)
  | writeSync =>
    rw [sentLen, hsync rfl] at hsent
    rwa [List.take_append_of_le_length (by omega)]
  | _ => exact absurd rfl hop

lemma HandshakeInv.totRead_le (h : HandshakeInv infos s)
    (hhead : (s.ends i).todo.head? = some .getQpInfo) :
    (s.ends i).reader.totRead ≤ (s.streams i.peer).bytes.length := by
  obtain ⟨rest, htodo⟩ := List.head?_eq_some_iff.mp hhead
  have hscript := (h.ends i).script
  rw [htodo] at hscript
  have hgot := h.got i
  rw [gotLen, (script_before hscript).2.1 rfl, Nat.zero_add] at hgot
  exact hgot ▸ h.pos i.peer

lemma HandshakeInv.buf_append {n : Nat} {rest : List HandshakeOp} (h : HandshakeInv infos s)
    (htodo : (s.ends i).todo = .getQpInfo :: rest) :
    (s.ends i).reader.buf ++ (s.streams i.peer).unread.take n =
      (s.streams i.peer).bytes.take ((s.ends i).reader.totRead + n) := by
  have hscript := (h.ends i).script
  rw [htodo] at hscript
  obtain ⟨-, hget, -⟩ := script_before hscript
  have hgot := h.got i
  rw [gotLen, hget rfl, Nat.zero_add] at hgot
  rw [h.buf i (by rw [htodo]; rfl), SockStream.unread, hgot, List.take_add]

lemma HandshakeInv.received {n : Nat} {rest : List HandshakeOp} (h : HandshakeInv infos s)
    (htodo : (s.ends i).todo = .getQpInfo :: rest) (hall : n = (s.ends i).reader.len)
    (hle : n ≤ (s.streams i.peer).unread.length) (order : ByteOrder) :
    QPInfo.ofWire order ((s.ends i).reader.buf ++ (s.streams i.peer).unread.take n) =
      infos i.peer := by
  have hcounted := (h.ends i).loops.counted
  rw [htodo, headLen_cons, HandshakeOp.reads] at hcounted
  have hscript := (h.ends i).script
  rw [htodo] at hscript
  have hgot := h.got i
  rw [gotLen, (script_before hscript).2.1 rfl, Nat.zero_add] at hgot
  rw [SockStream.unread, List.length_drop] at hle
  have hpos := h.pos i.peer
  rw [h.buf_append htodo, show (s.ends i).reader.totRead + n = QPInfo.size by omega]
  -- the stream is long enough for the prefix to be the whole message
  have hwire := h.wire i.peer
  have hfull : (s.streams i.peer).bytes.take QPInfo.size =
      (infos i.peer).toWire (s.ends i.peer).order := by
    refine hwire.eq_of_length ?_
    rw [List.length_take, toWire_length]
    omega
  rw [hfull, ofWire_toWire]

lemma HandshakeInv.remote_step (h : HandshakeInv infos s)
    (hs : EndMove (s.streams i.peer).unread (s.ends i) ok wrote count e') (info : QPInfo)
    (hinfo : e'.remoteQpInfo = some info) : info = infos i.peer := by
  cases hs with
  | @readsRest op rest n htodo hn hall hle =>
    cases op with
    | getQpInfo =>
      cases hinfo
      exact h.received htodo hall hle _
    | _ => exact h.remote i info hinfo
  | _ => exact h.remote i info hinfo

lemma HandshakeInv.buf_step (h : HandshakeInv infos s)
    (hs : EndMove (s.streams i.peer).unread (s.ends i) ok wrote count e')
    (hhead : e'.todo.head? = some .getQpInfo) :
    e'.reader.buf = (s.streams i.peer).bytes.take e'.reader.totRead := by
  cases hs with
  | @readsPart op rest n htodo hn hlt hle =>
    have hop : op = .getQpInfo := by simpa [htodo] using hhead
    rw [hop] at htodo
    exact h.buf_append htodo
  | writesPart n htodo hn hlt | repeats | dies => exact h.buf i hhead
  | _ => simp [Endpoint.next, startReader]

lemma side_cases (i j : Side) : j = i ∨ j = i.peer := by cases i <;> cases j <;> decide

lemma HandshakeInv.step {event : HandshakeEvent} (h : HandshakeInv infos s)
    (hs : handshakeStep s (i, event) = some s') : HandshakeInv infos s' := by
  obtain ⟨ok, wrote, count, e', -, hmove, -, hends, hmine, hpeers⟩ :=
    handshakeStep_move (h.ends i).loops hs
  have hend : s'.ends i = e' := by rw [hends, Function.update_self]
  have hother : s'.ends i.peer = s.ends i.peer := by
    rw [hends, Function.update_of_ne (peer_ne i)]
  obtain ⟨hinfo, horder⟩ := endMove_config hmove
  obtain ⟨hsent, hgot⟩ := lens_step (h.ends i).loops hmove (h.ends i).message_length
  have hpos := h.pos i.peer
  have hcount := count_le hmove
  rw [SockStream.unread, List.length_drop] at hcount
  constructor <;> intro j <;> obtain rfl | rfl := side_cases i j
  · rw [hend]
    exact (h.ends j).step (connectQp_sorted j) (connectQp_nodup j) hmove
  · rw [hother]
    exact h.ends _
  · rw [hend, hinfo, h.info]
  · rw [hother, h.info]
  · rw [hend, hmine, List.length_append, hsent, h.sent]
  · rw [hother, hpeers, h.sent]
  · rw [hend, hpeers, hgot, ← h.got]
  · have hgot' := h.got i.peer
    rw [peer_peer] at hgot' ⊢
    rw [hother, hmine, hgot']
  · rw [hmine, List.length_append]
    exact Nat.le_add_right_of_le (h.pos j)
  · rw [hpeers]
    dsimp only
    omega
  · rw [hend, hmine, horder]
    exact h.wire_append hmove
  · rw [hother, hpeers]
    exact h.wire _
  · rw [hend, hpeers]
    exact h.buf_step hmove
  · rw [hother, peer_peer, hmine]
    intro hhead
    have hbuf := h.buf i.peer hhead
    have hread := h.totRead_le hhead
    rw [peer_peer] at hbuf hread
    rw [hbuf, List.take_append_of_le_length hread]
  · rw [hend]
    exact h.remote_step hmove
  · rw [hother]
    exact h.remote _

lemma endInv_init (i : Side) (order : ByteOrder) (info : QPInfo) :
    EndInv (connectQp i) (Endpoint.init i order info) where
  script := rfl
  loops := loopInv_start rfl rfl
  syncLen := rfl
  early _ := ⟨rfl, rfl⟩
  known r hr := by cases hr
  dest q l hqp := by rcases hqp with hqp | hqp <;> cases hqp
  stored hmem := by cases hmem
  connected hmem := by cases hmem
  fetched hmem := by cases hmem
  linked hmem := by cases hmem

lemma handshakeInv_init (orders : Side → ByteOrder) (infos : Side → QPInfo) :
    HandshakeInv infos (handshakeInit orders infos) where
  ends i := endInv_init i (orders i) (infos i)
  info _ := rfl
  sent _ := rfl
  got _ := rfl
  pos _ := Nat.le_refl _
  wire _ := List.nil_prefix
  buf _ _ := rfl
  remote i info hinfo := by cases hinfo

lemma handshakeInv_of_run {orders : Side → ByteOrder}
    (h : GuardedRun handshakeStep (fun _ _ => True) (handshakeInit orders infos) s) :
    HandshakeInv infos s :=
  h.invariant (handshakeInv_init orders infos) fun _ ⟨_, _⟩ _ hs _ hstep => hs.step hstep

lemma done_of_sent {e : Endpoint} (h : EndInv (connectQp i) e)
    (hsent : QPInfo.size + syncSize ≤ sentLen e) :
    .storeRemote ∈ e.done ∧ .qpToRts ∈ e.done ∧ (i = .server → e.todo = []) := by
  obtain ⟨k, hk, hdone, htodo⟩ := script_split h.script
  have hunwritten := h.loops.unwritten
  have hwritten := h.loops.written
  rw [sentLen, hdone] at hsent
  rw [htodo] at hunwritten hwritten ⊢
  rw [hdone]
  cases i <;> interval_cases k <;>
    simp [connectQp, connectQpClient, connectQpServer, HandshakeOp.writes, QPInfo.size,
      syncSize] at hsent hwritten hunwritten ⊢ <;> omega

lemma HandshakeInv.barrier (h : HandshakeInv infos s) (hi : (s.ends i).todo = []) (j : Side) :
    .storeRemote ∈ (s.ends j).done ∧ .qpToRts ∈ (s.ends j).done := by
  have hdone := (h.ends i).script
  have hcounted := (h.ends i).loops.counted
  rw [hi, List.append_nil] at hdone
  rw [hi, headLen_nil] at hcounted
  obtain rfl | rfl := side_cases i j
  · rw [hdone]
    cases j <;> decide
  · -- it has read the second message, which the other sends after its last change of the pair
    have hgot := h.got i
    have hall : ((connectQp i).map HandshakeOp.reads).sum = QPInfo.size + syncSize := by
      cases i <;> rfl
    have hsent := h.sent i.peer
    have hpos := h.pos i.peer
    rw [gotLen, hdone, hall] at hgot
    obtain ⟨hstore, hrts, -⟩ := done_of_sent (h.ends i.peer) (by omega)
    exact ⟨hstore, hrts⟩

lemma HandshakeInv.connected (h : HandshakeInv infos s) (hstore : .storeRemote ∈ (s.ends i).done)
    (hrts : .qpToRts ∈ (s.ends i).done) :
    (s.ends i).qp = .rts (infos i.peer).qpNum (infos i.peer).lid ∧
      (s.ends i).ibRes = some ((infos i.peer).rkey, (infos i.peer).raddr) := by
  obtain ⟨q, l, hqp⟩ := (h.ends i).connected hrts
  obtain ⟨info, hinfo, rfl, rfl⟩ := (h.ends i).dest q l (.inr hqp)
  obtain ⟨r, hr⟩ := Option.ne_none_iff_exists'.mp ((h.ends i).stored hstore)
  obtain ⟨info', hinfo', rfl⟩ := (h.ends i).known r hr
  rw [hqp, hr, h.remote i info hinfo, h.remote i info' hinfo']
  exact ⟨rfl, rfl⟩

/-- In every interleaving of the calls, with any byte orders, pieces, interruptions and failures:
the key, the address and the queue pair that an end uses are those of the other, and when one of
them has been through both queue pairs are in RTS and point at each other. -/
theorem handshake_agrees (orders : Side → ByteOrder) (infos : Side → QPInfo) (s : Handshake)
    (h : GuardedRun handshakeStep (fun _ _ => True) (handshakeInit orders infos) s) (i : Side) :
    (∀ r, (s.ends i).ibRes = some r → r = ((infos i.peer).rkey, (infos i.peer).raddr)) ∧
    (∀ q l, (s.ends i).qp = .rtr q l ∨ (s.ends i).qp = .rts q l →
      q = (infos i.peer).qpNum ∧ l = (infos i.peer).lid) ∧
    ((s.ends i).todo = [] → ∀ j,
      (s.ends j).qp = .rts (infos j.peer).qpNum (infos j.peer).lid ∧
      (s.ends j).ibRes = some ((infos j.peer).rkey, (infos j.peer).raddr)) := by
  have hinv := handshakeInv_of_run h
  refine ⟨fun r hr => ?_, fun q l hqp => ?_, fun hi j => ?_⟩
  · obtain ⟨info, hinfo, rfl⟩ := (hinv.ends i).known r hr
    rw [hinv.remote i info hinfo]
  · obtain ⟨info, hinfo, rfl, rfl⟩ := (hinv.ends i).dest q l hqp
    rw [hinv.remote i info hinfo]
    exact ⟨rfl, rfl⟩
  · obtain ⟨hstore, hrts⟩ := hinv.barrier hi j
    exact hinv.connected hstore hrts

def twoOrders : Side → ByteOrder
  | .client => .little
  | .server => .big

def twoInfos : Side → QPInfo
  | .client => ⟨1, 17, 100, 4096⟩
  | .server => ⟨2, 18, 200, 8192⟩

/-- The calls until the server has been through; the client reads its message in two pieces and is
interrupted. -/
def serverThrough : List (Side × HandshakeEvent) :=
  [(.client, .write (.bytes 18)), (.server, .read (.bytes 18)), (.server, .write (.bytes 18)),
    (.client, .read (.bytes 7)), (.client, .read .interrupted), (.client, .read (.bytes 11)),
    (.client, .own true), (.client, .own true), (.client, .own true), (.client, .own true),
    (.server, .own true), (.server, .own true), (.server, .own true), (.server, .own true),
    (.client, .write (.bytes 5)), (.server, .read (.bytes 5)), (.server, .write (.bytes 5))]

/-- The server has returned and the client has not: both queue pairs are in RTS. -/
theorem handshake_agrees_server_first :
    ∃ s, GuardedRun handshakeStep (fun _ _ => True) (handshakeInit twoOrders twoInfos) s ∧
      (s.ends .server).todo = [] ∧ (s.ends .client).todo = [.readSync] ∧
      (s.ends .client).qp = .rts 18 2 ∧ (s.ends .client).ibRes = some (200, 8192) ∧
      (s.ends .server).qp = .rts 17 1 := by
  have hcomputed : (runActions handshakeStep (handshakeInit twoOrders twoInfos)
      serverThrough).map (fun s => ((s.ends .server).todo, (s.ends .client).todo)) =
      some ([], [.readSync]) := by decide +kernel
  obtain ⟨s, hs, hfields⟩ := Option.map_eq_some_iff.mp hcomputed
  obtain ⟨hserver, hclient⟩ := Prod.mk.inj hfields
  have hrun : GuardedRun handshakeStep (fun _ _ => True) (handshakeInit twoOrders twoInfos) s :=
    runActions_reaches _ (fun _ _ _ => trivial) .start hs
  obtain ⟨-, -, hboth⟩ := handshake_agrees twoOrders twoInfos s hrun .server
  exact ⟨s, hrun, hserver, hclient, (hboth hserver .client).1, (hboth hserver .client).2,
    (hboth hserver .server).1⟩

end Connection

section Progress

variable {infos : Side → QPInfo} {s s' : Handshake} {i : Side} {e e' : Endpoint}
  {unread wrote : List UInt8} {count : Nat}

/-- The bytes and the calls without the socket that an end has before it. -/
def endWork (e : Endpoint) : Nat :=
  (e.todo.map fun op => op.writes + op.reads + 1).sum - (e.writer.totWritten + e.reader.totRead)

/-- A bound on the calls of both ends. -/
def handshakeWork (s : Handshake) : Nat := endWork (s.ends .client) + endWork (s.ends .server)

lemma endWork_next (e : Endpoint) (op : HandshakeOp) (rest : List HandshakeOp) :
    endWork (e.next op rest) = (rest.map fun op => op.writes + op.reads + 1).sum := by
  simp [endWork, Endpoint.next, startWriter, startReader]

lemma endWork_cons {op : HandshakeOp} {rest : List HandshakeOp} (htodo : e.todo = op :: rest) :
    endWork e = op.writes + op.reads + 1 + (rest.map fun op => op.writes + op.reads + 1).sum -
      (e.writer.totWritten + e.reader.totRead) := by
  simp [endWork, htodo]

lemma endWork_lt (h : LoopInv e) (hs : EndMove unread e true wrote count e') :
    endWork e' < endWork e ∧ e'.dead = e.dead := by
  have hwritten := h.written
  have hcounted := h.counted
  cases hs with
  | @writesPart op rest n htodo hn hlt =>
    rw [htodo, headLen_cons] at hwritten hcounted
    refine ⟨?_, rfl⟩
    simp only [endWork, htodo, List.map_cons, List.sum_cons]
    omega
  | @readsPart op rest n htodo hn hlt hle =>
    rw [htodo, headLen_cons] at hwritten hcounted
    refine ⟨?_, rfl⟩
    simp only [endWork, htodo, List.map_cons, List.sum_cons]
    omega
  | @readsRest op rest n htodo hn hall hle =>
    rw [htodo, headLen_cons] at hwritten hcounted
    rw [endWork_next, endWork_cons htodo]
    refine ⟨by omega, ?_⟩
    cases op <;> rfl
  | writesRest n htodo | stores info htodo | inits htodo | receives info htodo
  | sends q l htodo =>
    rw [htodo, headLen_cons] at hwritten hcounted
    rw [endWork_next, endWork_cons htodo]
    exact ⟨by omega, rfl⟩

lemma script_ready {done rest : List HandshakeOp} {op : HandshakeOp}
    (h : done ++ op :: rest = connectQp i) :
    (op = .storeRemote ∨ op = .qpToRtr → .getQpInfo ∈ done) ∧
    (op = .qpToRts → .qpToRtr ∈ done ∧ .qpToRts ∉ done) := by
  obtain ⟨k, hk, rfl, htodo⟩ := script_split h
  have hall : ∀ k ≤ 8, ∀ op, ((connectQp i).drop k).head? = some op →
      (op = .storeRemote ∨ op = .qpToRtr → .getQpInfo ∈ (connectQp i).take k) ∧
      (op = .qpToRts → .qpToRtr ∈ (connectQp i).take k ∧ .qpToRts ∉ (connectQp i).take k) := by
    intro k hk op hop
    cases i <;> interval_cases k <;> cases hop <;> decide
  exact hall k hk op (by rw [← htodo]; rfl)

/-- Where an end reads: what it has sent and got. -/
lemma reading_lens (h : EndInv (connectQp i) e)
    (hread : headLen HandshakeOp.reads e.todo ≠ 0) :
    gotLen e < QPInfo.size + syncSize ∧
    (i = .client → (sentLen e = QPInfo.size ∧ gotLen e < QPInfo.size) ∨
      (sentLen e = QPInfo.size + syncSize ∧ QPInfo.size ≤ gotLen e)) ∧
    (i = .server → (sentLen e = 0 ∧ gotLen e < QPInfo.size) ∨
      (sentLen e = QPInfo.size ∧ QPInfo.size ≤ gotLen e)) := by
  obtain ⟨k, hk, hdone, htodo⟩ := script_split h.script
  have hexpecting := h.loops.expecting hread
  have hcounted := h.loops.counted
  have hwritten := h.loops.written
  rw [htodo] at hread hcounted hwritten
  rw [gotLen, sentLen, hdone]
  cases i <;> interval_cases k <;>
    simp [connectQp, connectQpClient, connectQpServer, HandshakeOp.writes, HandshakeOp.reads,
      QPInfo.size, syncSize] at hread hcounted hwritten ⊢ <;> omega

lemma HandshakeInv.unread_nil (h : HandshakeInv infos s) (hnil : (s.streams i).unread = []) :
    (s.streams i).pos = (s.streams i).bytes.length :=
  le_antisymm (h.pos i) (List.drop_eq_nil_iff.mp hnil)

/-- What makes an end die although its calls succeed does not occur. -/
lemma HandshakeInv.not_stalled (h : HandshakeInv infos s) (halive : ∀ i, (s.ends i).dead = false) :
    ¬Stalled s i := by
  rintro (⟨hnil, hclosed, hread⟩ | ⟨hhead, hqp⟩)
  · -- the other has been through, so it has sent all that is read
    have hpeer : (s.ends i.peer).todo = [] := by
      simpa [Endpoint.closed, halive i.peer] using hclosed
    have hsent := h.sent i.peer
    have hdone := (h.ends i.peer).script
    rw [hpeer, List.append_nil] at hdone
    have hall : ((connectQp i.peer).map HandshakeOp.writes).sum = QPInfo.size + syncSize := by
      cases i <;> rfl
    rw [sentLen, hdone, hall] at hsent
    have hgot := h.got i
    have hend := h.unread_nil hnil
    have hlt := (reading_lens (h.ends i) hread).1
    omega
  · obtain ⟨rest, htodo⟩ := List.head?_eq_some_iff.mp hhead
    have hscript := (h.ends i).script
    rw [htodo] at hscript
    obtain ⟨hrtr, hrts⟩ := (script_ready hscript).2 rfl
    obtain ⟨q, l, hql⟩ := (h.ends i).linked hrtr hrts
    exact hqp q l hql

lemma HandshakeInv.alive_step {event : HandshakeEvent} (h : HandshakeInv infos s)
    (halive : ∀ i, (s.ends i).dead = false) (hok : succeeds event = true)
    (hs : handshakeStep s (i, event) = some s') :
    (∀ i, (s'.ends i).dead = false) ∧ handshakeWork s' < handshakeWork s := by
  obtain ⟨ok, wrote, count, e', -, hmove, hsuccess, hends, -, -⟩ :=
    handshakeStep_move (h.ends i).loops hs
  obtain rfl := (hsuccess hok).resolve_right (h.not_stalled halive)
  obtain ⟨hlt, hdead⟩ := endWork_lt (h.ends i).loops hmove
  refine ⟨fun j => ?_, ?_⟩
  · rw [hends, Function.update_apply]
    split
    · rw [hdead, halive]
    · exact halive j
  · simp only [handshakeWork, hends]
    cases i <;> simpa [Function.update_apply] using hlt

lemma own_ne_none {op : HandshakeOp} {rest : List HandshakeOp} (h : EndInv (connectQp i) e)
    (htodo : e.todo = op :: rest) (hwrites : op.writes = 0) (hreads : op.reads = 0) :
    e.own true ≠ none := by
  have hscript := h.script
  rw [htodo] at hscript
  obtain ⟨hget, -⟩ := script_ready hscript
  cases op with
  | storeRemote => simpa [Endpoint.own, htodo] using h.fetched (hget (.inl rfl))
  | qpToInit => simp [Endpoint.own, htodo]
  | qpToRtr => simpa [Endpoint.own, htodo] using h.fetched (hget (.inr rfl))
  | qpToRts =>
    simp only [Endpoint.own, htodo]
    split <;> simp
  | setQpInfo | writeSync => cases hwrites
  | getQpInfo | readSync => cases hreads

/-- An end that writes or changes its queue pair has a call that succeeds, one that reads has it
if there is something to read. -/
lemma HandshakeInv.enabled {op : HandshakeOp} {rest : List HandshakeOp} (h : HandshakeInv infos s)
    (halive : (s.ends i).dead = false) (htodo : (s.ends i).todo = op :: rest)
    (hunread : op.reads ≠ 0 → (s.streams i.peer).unread ≠ []) :
    ∃ event, succeeds event = true ∧ handshakeStep s (i, event) ≠ none := by
  have hunwritten := (h.ends i).loops.unwritten
  have hexpecting := (h.ends i).loops.expecting
  rw [htodo] at hunwritten hexpecting
  rw [headLen_cons] at hunwritten hexpecting
  by_cases hwrites : op.writes = 0
  · by_cases hreads : op.reads = 0
    · -- a call without the socket
      refine ⟨.own true, rfl, ?_⟩
      simp only [handshakeStep, halive, Bool.false_eq_true, if_false, Ne, Option.map_eq_none_iff]
      exact own_ne_none (h.ends i) htodo hwrites hreads
    · refine ⟨.read (.bytes 1), rfl, ?_⟩
      have hpos := hexpecting hreads
      have hlen := List.length_pos_iff.mpr (hunread hreads)
      have hallowed :
          readAllowed (s.ends i) (s.ends i.peer) (s.streams i.peer) (.bytes 1) = true := by
        simp only [readAllowed, Bool.or_eq_true, Bool.and_eq_true, decide_eq_true_eq]
        omega
      simp [handshakeStep, halive, htodo, hreads, hallowed]
  · refine ⟨.write (.bytes 1), rfl, ?_⟩
    have hlt := hunwritten hwrites
    have hallowed : writeAllowed op (s.ends i) (.bytes 1) = true := by
      simp only [writeAllowed, Bool.and_eq_true, decide_eq_true_eq]
      omega
    simp [handshakeStep, halive, htodo, hwrites, hallowed]

/-- Where no call can succeed both ends have been through: they do not wait for each other. -/
lemma HandshakeInv.idle (h : HandshakeInv infos s) (halive : ∀ i, (s.ends i).dead = false)
    (hstuck : ∀ i event, succeeds event = true → handshakeStep s (i, event) = none) (i : Side) :
    (s.ends i).todo = [] := by
  -- an end with something to do reads, and there is nothing to read
  have hblocked : ∀ i, (s.ends i).todo ≠ [] → headLen HandshakeOp.reads (s.ends i).todo ≠ 0 ∧
      (s.streams i.peer).unread = [] := by
    intro i hne
    obtain ⟨op, rest, htodo⟩ := List.exists_cons_of_ne_nil hne
    rw [htodo, headLen_cons]
    by_contra hnot
    obtain ⟨event, hok, hevent⟩ := h.enabled (halive i) htodo (not_and.mp hnot)
    exact hevent (hstuck i event hok)
  by_contra hi
  obtain ⟨hread, hnil⟩ := hblocked i hi
  by_cases hpeer : (s.ends i.peer).todo = []
  · exact h.not_stalled halive (.inl ⟨hnil, by simp [Endpoint.closed, hpeer], hread⟩)
  obtain ⟨hread', hnil'⟩ := hblocked i.peer hpeer
  rw [peer_peer] at hnil'
  have hgot := h.got i
  have hgot' := h.got i.peer
  rw [peer_peer] at hgot'
  rw [h.unread_nil hnil, h.sent] at hgot
  rw [h.unread_nil hnil', h.sent] at hgot'
  obtain ⟨hlt, hclient, hserver⟩ := reading_lens (h.ends i) hread
  obtain ⟨hlt', hclient', hserver'⟩ := reading_lens (h.ends i.peer) hread'
  cases i with
  | client =>
    have hlens := hclient rfl
    have hlens' := hserver' rfl
    omega
  | server =>
    have hlens := hserver rfl
    have hlens' := hclient' rfl
    omega

/-- From every reachable state in which both ends are alive the calls that succeed are at most
`handshakeWork` many, whatever their order and the pieces that they transfer, and when none is left
both ends have been through. No end dies unless a call fails. -/
theorem handshake_completes (orders : Side → ByteOrder) (infos : Side → QPInfo) (s : Handshake)
    (h : GuardedRun handshakeStep (fun _ _ => True) (handshakeInit orders infos) s)
    (halive : ∀ i, (s.ends i).dead = false) (calls : List (Side × HandshakeEvent)) (s' : Handshake)
    (hcalls : GuardedTrace handshakeStep (fun _ call => succeeds call.2 = true) s calls s') :
    (∀ i, (s'.ends i).dead = false) ∧ calls.length ≤ handshakeWork s ∧
    ((∀ i event, succeeds event = true → handshakeStep s' (i, event) = none) →
      ∀ i, (s'.ends i).todo = []) := by
  have hstep : ∀ s call s', (HandshakeInv infos s ∧ ∀ i, (s.ends i).dead = false) →
      succeeds call.2 = true → handshakeStep s call = some s' →
      (HandshakeInv infos s' ∧ ∀ i, (s'.ends i).dead = false) ∧
        handshakeWork s' < handshakeWork s := by
    rintro s ⟨i, event⟩ s' ⟨hinv, halive⟩ hok hs
    obtain ⟨halive', hlt⟩ := hinv.alive_step halive hok hs
    exact ⟨⟨hinv.step hs, halive'⟩, hlt⟩
  have hinv := handshakeInv_of_run h
  have hle := hcalls.length_le handshakeWork hstep ⟨hinv, halive⟩
  obtain ⟨hinv', halive'⟩ :=
    hcalls.invariant (fun s call s' hs hok hst => (hstep s call s' hs hok hst).1) ⟨hinv, halive⟩
  exact ⟨halive', by omega, fun hstuck i => hinv'.idle halive' hstuck i⟩

/-- With the server through, the client has one message to read. -/
theorem handshake_completes_last_read :
    ∃ s s', GuardedRun handshakeStep (fun _ _ => True) (handshakeInit twoOrders twoInfos) s ∧
      GuardedTrace handshakeStep (fun _ call => succeeds call.2 = true) s
        [(.client, .read (.bytes 2)), (.client, .read (.bytes 3))] s' ∧
      2 ≤ handshakeWork s ∧ (∀ i, (s'.ends i).dead = false) ∧ (s'.ends .client).todo = [] := by
  have hcomputed : (runActions handshakeStep (handshakeInit twoOrders twoInfos)
      serverThrough).map (fun s => ((s.ends .client).dead, (s.ends .server).dead,
        (runActions handshakeStep s [(.client, .read (.bytes 2)),
          (.client, .read (.bytes 3))]).map fun s => (s.ends .client).todo)) =
      some (false, false, some []) := by decide +kernel
  obtain ⟨s, hs, hfields⟩ := Option.map_eq_some_iff.mp hcomputed
  simp only [Prod.mk.injEq] at hfields
  obtain ⟨hclient, hserver, hlast⟩ := hfields
  obtain ⟨s', hs', htodo⟩ := Option.map_eq_some_iff.mp hlast
  have hrun : GuardedRun handshakeStep (fun _ _ => True) (handshakeInit twoOrders twoInfos) s :=
    runActions_reaches _ (fun _ _ _ => trivial) .start hs
  have hcalls : GuardedTrace handshakeStep (fun _ call => succeeds call.2 = true) s
      [(.client, .read (.bytes 2)), (.client, .read (.bytes 3))] s' := by
    refine .of_runActions (fun call hcall _ => ?_) hs'
    simp only [List.mem_cons, List.not_mem_nil, or_false] at hcall
    rcases hcall with rfl | rfl <;> rfl
  have halive : ∀ i, (s.ends i).dead = false := by
    intro i
    cases i
    · exact hclient
    · exact hserver
  obtain ⟨halive', hle, -⟩ :=
    handshake_completes twoOrders twoInfos s hrun halive _ s' hcalls
  exact ⟨s, s', hrun, hcalls, hle, halive', htodo⟩

end Progress

end DisStore.Proofs
