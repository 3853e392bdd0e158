import DisStore.Calls
import DisStore.Proofs.SlabOwnership

/-!
# A reported bind is a real bind

While at most one thread of a block device waits for INFO_SINGLE, its bind is at one place: in
a BIND_SINGLE message, in an INFO_SINGLE message that names a slab, or in the maps of the block
device. The thread returns from the call in the last case only, and nothing is unmapped before
it does: a message of an eviction that is received in between overwrites the state that the
thread waits for.
-/

namespace DisStore.Proofs
open DisStore DisStore.Lib

/-- The BIND_SINGLE messages on their way to the daemon. -/
def bindsSent (p : Peer) : List Message := p.toDaemon.filter (hasType .bindSingle)

/-- The INFO_SINGLE messages on their way to the block device. -/
def infosSent (p : Peer) : List Message := p.toClient.filter (hasType .infoSingle)

/-- The maps of the block device have the chunk on a slab of the server. -/
def ChunkBound (maxMr cbIndex : Nat) (p : Peer) (chunk : Nat) : Prop :=
  p.sess.cbIndexMap chunk = cbIndex ∧
    ∃ i < maxMr, p.sess.chunkMapCbChunk chunk = i ∧ p.cb.chunkMap i = chunk

/-- Where the bind of a thread that waits for INFO_SINGLE is. -/
inductive BindStage (maxMr cbIndex : Nat) (p : Peer) (chunk : Nat) : Prop
  | requested (m : Message) (hbinds : bindsSent p = [m]) (hinfos : infosSent p = [])
      (hsize : m.sizeGb = chunk) (hstate : p.cb.state ≠ .waitOps)
  | granted (m : Message) (hbinds : bindsSent p = []) (hinfos : infosSent p = [m])
      (hsize : m.sizeGb = chunk) (hgrant : (grantedSlab maxMr m).isSome = true)
      (hstate : p.cb.state ≠ .waitOps)
  | bound (hbinds : bindsSent p = []) (hinfos : infosSent p = [])
      (hbound : p.cb.state = .waitOps → ChunkBound maxMr cbIndex p chunk)

/-- The calls of one block device. -/
structure CallInv (maxMr cbIndex : Nat) (calls : CallerId → BindCall) (p : Peer) : Prop where
  quiet : (∀ t chunk, calls t ≠ .awaitInfo chunk) → bindsSent p = [] ∧ infosSent p = []
  stage : ∀ t chunk, calls t = .awaitInfo chunk → BindStage maxMr cbIndex p chunk
  one : ∀ t t' chunk chunk', calls t = .awaitInfo chunk → calls t' = .awaitInfo chunk' → t = t'
  ready : p.cb.state = .waitOps → p.cb.cState = .ready

/-- The parts of a block device that a bound chunk is seen in. -/
structure BindMapsKept (p p' : Peer) : Prop where
  state : p'.cb.state = p.cb.state
  cState : p'.cb.cState = p.cb.cState
  cbIndexMap : p'.sess.cbIndexMap = p.sess.cbIndexMap
  chunkMapCbChunk : p'.sess.chunkMapCbChunk = p.sess.chunkMapCbChunk
  chunkMap : p'.cb.chunkMap = p.cb.chunkMap

/-- A step of a block device that no bind takes part in. -/
structure KeepsBinds (p p' : Peer) : Prop where
  binds : bindsSent p' = bindsSent p
  infos : infosSent p' = infosSent p
  maps : p'.cb.state = .waitOps → BindMapsKept p p'

variable {maxMr cbIndex chunk : Nat} {calls calls' : CallerId → BindCall} {p p' : Peer}
  {t : CallerId}

lemma BindStage.keep (h : BindStage maxMr cbIndex p chunk) (hkeep : KeepsBinds p p') :
    BindStage maxMr cbIndex p' chunk := by
  have hstate : p'.cb.state = .waitOps → p.cb.state = .waitOps := fun hw =>
    (hkeep.maps hw).state.symm.trans hw
  cases h with
  | requested m hbinds hinfos hsize hne =>
    exact .requested m (hkeep.binds.trans hbinds) (hkeep.infos.trans hinfos) hsize
      fun hw => hne (hstate hw)
  | granted m hbinds hinfos hsize hgrant hne =>
    exact .granted m (hkeep.binds.trans hbinds) (hkeep.infos.trans hinfos) hsize hgrant
      fun hw => hne (hstate hw)
  | bound hbinds hinfos hbound =>
    refine .bound (hkeep.binds.trans hbinds) (hkeep.infos.trans hinfos) fun hw => ?_
    have hmaps := hkeep.maps hw
    unfold ChunkBound
    rw [hmaps.cbIndexMap, hmaps.chunkMapCbChunk, hmaps.chunkMap]
    exact hbound (hstate hw)

lemma CallInv.keep (h : CallInv maxMr cbIndex calls p) (hkeep : KeepsBinds p p') :
    CallInv maxMr cbIndex calls p' := by
  refine ⟨fun hnone => ?_, fun t chunk ht => (h.stage t chunk ht).keep hkeep, h.one, fun hw => ?_⟩
  · rw [hkeep.binds, hkeep.infos]
    exact h.quiet hnone
  · have hmaps := hkeep.maps hw
    rw [hmaps.cState]
    exact h.ready (hmaps.state.symm.trans hw)

lemma CallInv.move (h : CallInv maxMr cbIndex calls p) (t : CallerId) (call : BindCall)
    (hold : ∀ chunk, calls t ≠ .awaitInfo chunk) (hnew : ∀ chunk, call ≠ .awaitInfo chunk) :
    CallInv maxMr cbIndex (Function.update calls t call) p := by
  have hsame : ∀ t' chunk, Function.update calls t call t' = .awaitInfo chunk ↔
      calls t' = .awaitInfo chunk := by
    intro t' chunk
    by_cases ht : t' = t
    · rw [ht, Function.update_self]
      exact iff_of_false (hnew chunk) (hold chunk)
    · rw [Function.update_of_ne ht]
  refine ⟨fun hnone => h.quiet fun t' chunk ht => hnone t' chunk ((hsame t' chunk).mpr ht),
    fun t' chunk ht => h.stage t' chunk ((hsame t' chunk).mp ht), ?_, h.ready⟩
  intro t₁ t₂ chunk₁ chunk₂ h₁ h₂
  exact h.one t₁ t₂ chunk₁ chunk₂ ((hsame _ _).mp h₁) ((hsame _ _).mp h₂)

lemma CallInv.init (hidle : ∀ t chunk, calls t ≠ .awaitInfo chunk) (sess : Session) :
    CallInv maxMr cbIndex calls (peerInit sess) :=
  ⟨fun _ => ⟨rfl, rfl⟩, fun t chunk ht => (hidle t chunk ht).elim,
    fun t _ chunk _ ht => (hidle t chunk ht).elim, fun hw => by cases hw⟩

lemma filter_hasType_append {type : MsgType} {m : Message} (h : m.type ≠ type)
    (l : List Message) : (l ++ [m]).filter (hasType type) = l.filter (hasType type) := by
  rw [List.filter_append, List.filter_singleton, hasType, decide_eq_false h, cond_false,
    List.append_nil]

lemma filter_hasType_cons {type : MsgType} {m : Message} (h : m.type ≠ type) (l : List Message) :
    (m :: l).filter (hasType type) = l.filter (hasType type) :=
  List.filter_cons_of_neg (by rwa [hasType, decide_eq_true_eq])

lemma CallInv.post (h : CallInv maxMr cbIndex calls p) {m : Message} (ht : m.type ≠ .bindSingle)
    (hd : p'.toDaemon = p.toDaemon ++ [m]) (hc : p'.toClient = p.toClient)
    (hmaps : p'.cb.state = .waitOps → BindMapsKept p p') : CallInv maxMr cbIndex calls p' := by
  apply h.keep
  refine ⟨?_, ?_, hmaps⟩
  · rw [bindsSent, hd, filter_hasType_append ht, bindsSent]
  · rw [infosSent, hc, infosSent]

lemma CallInv.deliver (h : CallInv maxMr cbIndex calls p) {m : Message}
    (ht : m.type ≠ .infoSingle) (round : PeerRound) :
    CallInv maxMr cbIndex calls ({ p with round := round }.deliver [m]) := by
  apply h.keep
  refine ⟨rfl, ?_, fun _ => ⟨rfl, rfl, rfl, rfl, rfl⟩⟩
  exact filter_hasType_append ht p.toClient

lemma CallInv.congr (h : CallInv maxMr cbIndex calls p) (hd : p'.toDaemon = p.toDaemon)
    (hc : p'.toClient = p.toClient) (hmaps : p'.cb.state = .waitOps → BindMapsKept p p') :
    CallInv maxMr cbIndex calls p' := by
  apply h.keep
  refine ⟨?_, ?_, hmaps⟩
  · rw [bindsSent, hd, bindsSent]
  · rw [infosSent, hc, infosSent]

lemma CallInv.bind (h : CallInv maxMr cbIndex calls p)
    (hnone : ∀ t chunk, calls t ≠ .awaitInfo chunk) (hstate : p.cb.state ≠ .waitOps)
    (t : CallerId) (chunk : Nat) :
    CallInv maxMr cbIndex (Function.update calls t (.awaitInfo chunk))
      (p.post (sendBindSingle p.cb chunk)) := by
  obtain ⟨hbinds, hinfos⟩ := h.quiet hnone
  have honly : ∀ t' chunk', Function.update calls t (.awaitInfo chunk) t' = .awaitInfo chunk' →
      t' = t ∧ chunk' = chunk := by
    intro t' chunk' ht
    by_cases he : t' = t
    · rw [he, Function.update_self, BindCall.awaitInfo.injEq] at ht
      exact ⟨he, ht.symm⟩
    · rw [Function.update_of_ne he] at ht
      exact (hnone t' chunk' ht).elim
  refine ⟨fun hno => ?_, fun t' chunk' ht => ?_, fun t₁ t₂ c₁ c₂ h₁ h₂ => ?_, h.ready⟩
  · exact (hno t chunk (Function.update_self ..)).elim
  · rw [(honly t' chunk' ht).2]
    refine .requested (sendBindSingle p.cb chunk).sendBuf ?_ hinfos rfl hstate
    change (p.toDaemon ++ [_]).filter _ = _
    rw [List.filter_append]
    change bindsSent p ++ _ = _
    rw [hbinds]
    rfl
  · exact (honly t₁ c₁ h₁).1.trans (honly t₂ c₂ h₂).1.symm

lemma CallInv.serve (h : CallInv maxMr cbIndex calls p) {m : Message} {rest out : List Message}
    (hm : p.toDaemon = m :: rest) (ht : m.type ≠ .bindSingle)
    (hout : ∀ x ∈ out, x.type ≠ .infoSingle) (round : PeerRound) :
    CallInv maxMr cbIndex calls ({ p with toDaemon := rest, round := round }.deliver out) := by
  apply h.keep
  refine ⟨?_, ?_, fun _ => ⟨rfl, rfl, rfl, rfl, rfl⟩⟩
  · rw [bindsSent, bindsSent, hm, filter_hasType_cons ht]
    rfl
  · have hnone : out.filter (hasType .infoSingle) = [] := by
      rw [List.filter_eq_nil_iff]
      intro x hx hg
      exact hout x hx (of_decide_eq_true hg)
    change (p.toClient ++ out).filter _ = _
    rw [List.filter_append, hnone, List.append_nil]
    rfl

lemma CallInv.serveBind (h : CallInv maxMr cbIndex calls p) {m reply : Message}
    {rest : List Message} (hm : p.toDaemon = m :: rest) (ht : m.type = .bindSingle)
    (hreply : reply.type = .infoSingle) (hsize : reply.sizeGb = m.sizeGb)
    (hgrant : (grantedSlab maxMr reply).isSome = true) (round : PeerRound) :
    CallInv maxMr cbIndex calls ({ p with toDaemon := rest, round := round }.deliver [reply]) := by
  set p' := Peer.deliver { p with toDaemon := rest, round := round } [reply] with hp'
  have hbinds : bindsSent p = m :: bindsSent p' := by
    rw [bindsSent, hm, List.filter_cons_of_pos (hasType_of_eq ht)]
    rfl
  have hinfos : infosSent p' = infosSent p ++ [reply] := by
    change (p.toClient ++ [reply]).filter _ = _
    rw [List.filter_append, List.filter_singleton, hasType_of_eq hreply, cond_true]
    rfl
  refine ⟨fun hno => ?_, fun t chunk hcall => ?_, h.one, h.ready⟩
  · have hnil := (h.quiet hno).1
    rw [hbinds] at hnil
    cases hnil
  · cases h.stage t chunk hcall with
    | requested m' hb hi hs hstate =>
      rw [hbinds, List.cons.injEq] at hb
      obtain ⟨rfl, hb⟩ := hb
      refine .granted reply hb ?_ (hsize.trans hs) hgrant hstate
      rw [hinfos, hi]
      rfl
    | granted m' hb hi hs hg hstate =>
      rw [hbinds] at hb
      cases hb
    | bound hb hi hbound =>
      rw [hbinds] at hb
      cases hb

lemma singleChunkInit_bound {m : Message} {s : Session} {cb : ControlBlock}
    (hmsg : cb.recvBuf = m) (hgrant : (grantedSlab maxMr m).isSome = true)
    (hsize : m.sizeGb = chunk) (hp : (p'.sess, p'.cb) = singleChunkInit maxMr cbIndex s cb) :
    ChunkBound maxMr cbIndex p' chunk := by
  obtain ⟨i, hi⟩ := Option.isSome_iff_exists.mp hgrant
  have hlt : i < maxMr := List.mem_range.mp (List.mem_of_find?_eq_some hi)
  simp only [singleChunkInit, hmsg, hi, hsize, Prod.mk.injEq] at hp
  obtain ⟨hsess, hcb⟩ := hp
  refine ⟨?_, i, hlt, ?_, ?_⟩
  · rw [hsess]
    exact Function.update_self ..
  · rw [hsess]
    exact Function.update_self ..
  · rw [hcb]
    exact Function.update_self ..

lemma singleChunkInit_ready {m : Message} {s : Session} {cb : ControlBlock}
    (hmsg : cb.recvBuf = m) (hgrant : (grantedSlab maxMr m).isSome = true) :
    (singleChunkInit maxMr cbIndex s cb).2.cState = .ready := by
  obtain ⟨i, hi⟩ := Option.isSome_iff_exists.mp hgrant
  simp only [singleChunkInit, hmsg, hi]

lemma CallInv.receiveInfo (h : CallInv maxMr cbIndex calls p) {m : Message}
    {rest : List Message} (hm : p.toClient = m :: rest) (ht : m.type = .infoSingle) (s : Session) :
    CallInv maxMr cbIndex calls { p with
      sess := (singleChunkInit maxMr cbIndex s { p.cb with recvBuf := m, state := .waitOps }).1
      cb := (singleChunkInit maxMr cbIndex s { p.cb with recvBuf := m, state := .waitOps }).2
      toClient := rest } := by
  have hinfos : infosSent p = m :: rest.filter (hasType .infoSingle) := by
    rw [infosSent, hm, List.filter_cons_of_pos (hasType_of_eq ht)]
  -- some thread waits for this message, which names a slab
  obtain ⟨t₀, chunk₀, hcall₀⟩ : ∃ t chunk, calls t = .awaitInfo chunk := by
    by_contra! hno
    have hnil := (h.quiet hno).2
    rw [hinfos] at hnil
    cases hnil
  have hgranted : ∀ t chunk, calls t = .awaitInfo chunk → bindsSent p = [] ∧
      rest.filter (hasType .infoSingle) = [] ∧ m.sizeGb = chunk ∧
      (grantedSlab maxMr m).isSome = true := by
    intro t chunk hcall
    cases h.stage t chunk hcall with
    | requested m' hb hi hs hstate =>
      rw [hinfos] at hi
      cases hi
    | granted m' hb hi hs hg hstate =>
      rw [hinfos, List.cons.injEq] at hi
      obtain ⟨rfl, hi⟩ := hi
      exact ⟨hb, hi, hs, hg⟩
    | bound hb hi hbound =>
      rw [hinfos] at hi
      cases hi
  refine ⟨fun hno => (hno t₀ chunk₀ hcall₀).elim, fun t chunk hcall => ?_, h.one, fun _ => ?_⟩
  · obtain ⟨hb, hi, hs, hg⟩ := hgranted t chunk hcall
    exact .bound hb hi fun _ => singleChunkInit_bound rfl hg hs rfl
  · exact singleChunkInit_ready rfl (hgranted t₀ chunk₀ hcall₀).2.2.2

lemma CallInv.receive (h : CallInv maxMr cbIndex calls p) {owns : Nat → Bool} {sem : Nat}
    (hconn : ConnInv maxMr owns sem p) {m : Message} {rest : List Message}
    (hm : p.toClient = m :: rest) :
    CallInv maxMr cbIndex calls { p with
      sess := (cqRecv maxMr cbIndex p.sess p.cb m).1
      cb := (cqRecv maxMr cbIndex p.sess p.cb m).2
      toClient := rest } := by
  obtain ⟨hup, hok⟩ := hconn.up
  -- a message that grants nothing leaves another state than WAIT_OPS
  have hother : ∀ p' : Peer, p'.toDaemon = p.toDaemon → p'.toClient = rest →
      m.type ≠ .infoSingle → p'.cb.state ≠ .waitOps → CallInv maxMr cbIndex calls p' := by
    intro p' hd hc ht hstate
    refine h.keep ⟨?_, ?_, fun hw => (hstate hw).elim⟩
    · rw [bindsSent, hd, bindsSent]
    · rw [infosSent, infosSent, hc, hm, filter_hasType_cons ht]
  have htypes := hconn.replies m (hm ▸ List.mem_cons_self)
  simp only [isAnswer, decide_eq_true_eq] at htypes
  rcases htypes with (ht | ht) | ht | ht
  · rw [cqRecv_freeSize maxMr cbIndex p.sess hup hok ht]
    exact hother _ rfl rfl (by simp [ht]) (by rintro ⟨⟩)
  · rw [cqRecv_infoSingle maxMr cbIndex p.sess hup hok ht]
    exact h.receiveInfo hm ht _
  · rw [cqRecv_evict maxMr cbIndex p.sess hup hok ht]
    refine hother _ rfl rfl (by simp [ht]) ?_
    rw [clientRecvEvict_state]
    rintro ⟨⟩
  · rw [cqRecv_stop maxMr cbIndex p.sess hup hok ht]
    refine hother _ rfl rfl (by simp [ht]) ?_
    rw [clientRecvStop_state]
    rintro ⟨⟩

lemma CallInv.bound_of_waitOps (h : CallInv maxMr cbIndex calls p)
    (hcall : calls t = .awaitInfo chunk) (hstate : p.cb.state = .waitOps) :
    bindsSent p = [] ∧ infosSent p = [] ∧ ChunkBound maxMr cbIndex p chunk := by
  cases h.stage t chunk hcall with
  | requested m hb hi hs hne => exact (hne hstate).elim
  | granted m hb hi hs hg hne => exact (hne hstate).elim
  | bound hb hi hbound => exact ⟨hb, hi, hbound hstate⟩

lemma CallInv.finish (h : CallInv maxMr cbIndex calls p) (hcall : calls t = .awaitInfo chunk)
    (hstate : p.cb.state = .waitOps) :
    CallInv maxMr cbIndex (Function.update calls t .idle) p := by
  obtain ⟨hbinds, hinfos, -⟩ := h.bound_of_waitOps hcall hstate
  have hnone : ∀ t' chunk', Function.update calls t .idle t' ≠ .awaitInfo chunk' := by
    intro t' chunk' ht
    by_cases he : t' = t
    · rw [he, Function.update_self] at ht
      cases ht
    · rw [Function.update_of_ne he] at ht
      exact he (h.one t' t chunk' chunk ht hcall)
  exact ⟨fun _ => ⟨hbinds, hinfos⟩, fun t' chunk' ht => (hnone t' chunk' ht).elim,
    fun t' _ chunk' _ ht => (hnone t' chunk' ht).elim, h.ready⟩

/-! ### The system -/

/-- What is assumed of the protocol: keys of memory regions are not zero, and a STOP flags
reported slabs. -/
def bindEnv (cfg : ProtocolCfg) (s : BindSystem) : BindEvent → Prop
  | .other e => protocolEnv cfg s.proto e
  | _ => True

/-- A connection request finds an idle slot, BIND_SINGLE is handled while a slab is free, and
it is sent while no thread of the block device waits for INFO_SINGLE and the state of the
control block is not WAIT_OPS. -/
def bindFitsCall (cfg : ProtocolCfg) (s : BindSystem) : BindEvent → Prop
  | .connect _ _ _ _ _ _ => firstIdleSlot cfg.daemon s.proto.daemon ≠ none
  | .other (.serve id _) => ∀ msg rest, (s.proto.peers id).toDaemon = msg :: rest →
      msg.type = .bindSingle → ∃ i < cfg.daemon.maxFreeMemGb, s.proto.daemon.freeSlab i = true
  | .bind id _ => (∀ t chunk, s.calls id t ≠ .awaitInfo chunk) ∧
      (s.proto.peers id).cb.state ≠ .waitOps
  | _ => True

structure BindInv (cfg : ProtocolCfg) (s : BindSystem) : Prop where
  proto : ProtocolInv cfg s.proto
  calls : ∀ id, CallInv cfg.daemon.maxFreeMemGb cfg.cbIndex (s.calls id) (s.proto.peers id)
  live : ∀ id t, s.calls id t ≠ .idle → (s.proto.daemon.heap id).isSome = true

variable {cfg : ProtocolCfg} {s s' : BindSystem} {id : ConnId}

lemma bindInv_init (cfg : ProtocolCfg) (freeMemG : Int) :
    BindInv cfg (bindSystemInit cfg freeMemG) :=
  ⟨protocolInv_init cfg freeMemG, fun _ => CallInv.init (fun _ _ h => by cases h) _,
    fun _ _ h => (h rfl).elim⟩

lemma BindInv.act (h : BindInv cfg s) (hproto : ProtocolInv cfg s'.proto)
    (hpeers : s'.proto.peers = Function.update s.proto.peers id p')
    (hcalls : s'.calls = Function.update s.calls id calls')
    (hlive : ∀ k, (s.proto.daemon.heap k).isSome = true →
      (s'.proto.daemon.heap k).isSome = true)
    (hself : (s'.proto.daemon.heap id).isSome = true)
    (hp : CallInv cfg.daemon.maxFreeMemGb cfg.cbIndex calls' p') : BindInv cfg s' := by
  refine ⟨hproto, fun k => ?_, fun k t hne => ?_⟩
  · rw [hcalls, hpeers]
    by_cases hk : k = id
    · rw [hk, Function.update_self, Function.update_self]
      exact hp
    · rw [Function.update_of_ne hk, Function.update_of_ne hk]
      exact h.calls k
  · by_cases hk : k = id
    · rw [hk]
      exact hself
    · rw [hcalls, Function.update_of_ne hk] at hne
      exact hlive k (h.live k t hne)

lemma BindInv.actProto (h : BindInv cfg s) {proto : Protocol} (hproto : ProtocolInv cfg proto)
    (hpeers : proto.peers = Function.update s.proto.peers id p')
    (hlive : ∀ k, (s.proto.daemon.heap k).isSome = true → (proto.daemon.heap k).isSome = true)
    (hself : (proto.daemon.heap id).isSome = true)
    (hp : CallInv cfg.daemon.maxFreeMemGb cfg.cbIndex (s.calls id) p') :
    BindInv cfg { s with proto := proto } := by
  have hcalls : ({ s with proto := proto } : BindSystem).calls =
      Function.update s.calls id (s.calls id) := (Function.update_eq_self id s.calls).symm
  exact h.act hproto hpeers hcalls hlive hself hp

lemma protoStep_eq_some {e : ProtocolEvent} :
    protoStep cfg s e = some s' ↔
      ∃ proto, protocolStep cfg s.proto e = some proto ∧ s' = { s with proto := proto } := by
  simp only [protoStep, Option.bind_eq_bind, Option.bind_eq_some_iff, Option.some.injEq,
    @eq_comm _ s']

lemma updateConn_live (d : DaemonState) (id : ConnId) (f : Connection → Connection) (k : ConnId) :
    ((d.updateConn id f).heap k).isSome = (d.heap k).isSome := by
  rw [updateConn_heap]
  by_cases hk : k = id
  · rw [if_pos hk, Option.isSome_map, hk]
  · rw [if_neg hk]

lemma BindInv.serve (h : BindInv cfg s) {mr : Nat → MemRegion} {proto : Protocol}
    (hkeys : ∀ i, 0 < (mr i).rkey ∧ (mr i).rkey < 2 ^ 32)
    (hfits : bindFitsCall cfg s (.other (.serve id mr)))
    (hs : protocolStep cfg s.proto (.serve id mr) = some proto) :
    BindInv cfg { s with proto := proto } := by
  have hinv := h.proto.serve hkeys hs
  simp only [protocolStep] at hs
  split at hs
  next => cases hs
  next m rest hm =>
    simp only [Option.bind_eq_bind, Option.bind_eq_some_iff, Option.some.injEq] at hs
    obtain ⟨r, hr, rfl⟩ := hs
    obtain ⟨c, hc, -⟩ := Option.bind_eq_some_iff.mp hr
    have hlive : (s.proto.daemon.heap id).isSome = true := by rw [hc, Option.isSome_some]
    -- what the answer has to be for the step to keep the invariant
    have hact : ∀ slabs owned sem, Moves id slabs owned sem s.proto.daemon r.1 →
        CallInv cfg.daemon.maxFreeMemGb cfg.cbIndex (s.calls id) (Peer.deliver
          { s.proto.peers id with
            toDaemon := rest
            round := roundAfter m (s.proto.peers id).round } (outboxTo r.2 id)) →
        BindInv cfg { s with proto := setPeer { s.proto with daemon := r.1 } id (Peer.deliver
          { s.proto.peers id with
            toDaemon := rest
            round := roundAfter m (s.proto.peers id).round } (outboxTo r.2 id)) } := by
      intro slabs owned sem hmoves hp
      exact h.actProto hinv rfl (fun k hk => (hmoves.live k).trans hk)
        ((hmoves.live id).trans hlive) hp
    rcases (h.proto.conn hc).requests m (hm ▸ List.mem_cons_self) with ht | ht | ht | ht
    · obtain ⟨d, reply, hrecv, -, hmoves, hreply⟩ := h.proto.maps.onRecv_query hc mr ht
      obtain rfl : (d, [(id, reply)]) = r := Option.some.inj (hrecv.symm.trans hr)
      apply hact _ _ _ hmoves
      apply (h.calls id).serve hm (by simp [ht])
      rw [outboxTo_self]
      exact List.forall_mem_singleton.mpr (by simp [hreply])
    · obtain ⟨d, reply, hrecv, -, hreply, hsize, hcase⟩ := h.proto.maps.onRecv_bindSingle hc mr ht
      obtain rfl : (d, [(id, reply)]) = r := Option.some.inj (hrecv.symm.trans hr)
      rcases hcase with ⟨i, hi, -, hmoves, hkey⟩ | ⟨hnone, -, -⟩
      · have hne : htonl (mr i).rkey ≠ 0 := by
          obtain ⟨hpos, hlt⟩ := hkeys i
          rw [ne_eq, htonl_eq_zero hlt]
          omega
        have hgrant := congrArg Option.isSome (grantedSlab_single hi hne hkey)
        apply hact _ _ _ hmoves
        rw [outboxTo_self]
        exact (h.calls id).serveBind hm ht hreply hsize hgrant _
      · obtain ⟨i, hi, hfree⟩ := hfits m rest hm ht
        rw [hnone i hi] at hfree
        cases hfree
    · obtain ⟨d, hrecv, -, hmoves⟩ := h.proto.maps.onRecv_activity hc mr ht
      obtain rfl : (d, []) = r := Option.some.inj (hrecv.symm.trans hr)
      apply hact _ _ _ hmoves
      exact (h.calls id).serve hm (by simp [ht]) (fun x hx => (List.not_mem_nil hx).elim) _
    · have hown : ∀ i ∈ flaggedSlots cfg.daemon m, ownsSlab s.proto.daemon id i = true := by
        intro i hi
        obtain ⟨hlt, hkey⟩ := List.mem_filter.mp hi
        exact (h.proto.conn hc).owns_returned hm ht (List.mem_range.mp hlt)
          (of_decide_eq_true hkey)
      obtain ⟨d, hrecv, -, hmoves⟩ := h.proto.maps.onRecv_done hc mr ht hown
      obtain rfl : (d, []) = r := Option.some.inj (hrecv.symm.trans hr)
      apply hact _ _ _ hmoves
      exact (h.calls id).serve hm (by simp [ht]) (fun x hx => (List.not_mem_nil hx).elim) _

lemma BindInv.connect (h : BindInv cfg s) {chunk : Nat} {junkIndex : Int} {junkMsg : Message}
    {sess : Session} (hslot : firstIdleSlot cfg.daemon s.proto.daemon ≠ none)
    (hs : bindSystemStep cfg s (.connect id t chunk junkIndex junkMsg sess) = some s') :
    BindInv cfg s' := by
  simp only [bindSystemStep, Option.ite_none_right_eq_some, Option.bind_eq_bind,
    Option.bind_eq_some_iff, Option.some.injEq, protoStep_eq_some] at hs
  obtain ⟨-, _, ⟨proto, hproto, rfl⟩, rfl⟩ := hs
  have hinv := h.proto.connect hslot hproto
  simp only [protocolStep, daemonStep, Option.bind_eq_bind, Option.bind_eq_some_iff,
    Option.ite_none_right_eq_some, Option.some.injEq] at hproto
  obtain ⟨d, ⟨hnone, rfl⟩, rfl⟩ := hproto
  have hheap : ∀ k, k ≠ id → (buildConnection cfg.daemon s.proto.daemon id junkIndex junkMsg).heap k =
      s.proto.daemon.heap k := fun k hk => buildConnection_heap _ _ _ _ hk
  have hself : ((buildConnection cfg.daemon s.proto.daemon id junkIndex junkMsg).heap id).isSome =
      true := by
    unfold buildConnection
    split
    · simp
    · simp
  refine h.act hinv rfl rfl ?_ ?_ ?_
  · intro k hk
    by_cases hkid : k = id
    · exact hkid ▸ hself
    · exact (congrArg Option.isSome (hheap k hkid)).trans hk
  · exact hself
  · -- no thread of a block device without connection is in a call
    apply CallInv.init
    intro t' chunk' ht
    by_cases hte : t' = t
    · rw [hte, Function.update_self] at ht
      cases ht
    · rw [Function.update_of_ne hte] at ht
      have hcall := h.live id t' (by rw [ht]; rintro ⟨⟩)
      rw [hnone] at hcall
      cases hcall

lemma BindInv.local (h : BindInv cfg s) {call : BindCall} (hcall : s.calls id t ≠ .idle)
    (hconn : ∀ owns sem, ConnInv cfg.daemon.maxFreeMemGb owns sem (s.proto.peers id) →
      ConnInv cfg.daemon.maxFreeMemGb owns sem p')
    (hp : CallInv cfg.daemon.maxFreeMemGb cfg.cbIndex (Function.update (s.calls id) t call) p') :
    BindInv cfg (setCall { s with proto := setPeer s.proto id p' } id t call) := by
  have hlive := h.live id t hcall
  have hinv := h.proto.peer (hconn _ _ (h.proto.conns id hlive))
  exact h.act hinv rfl rfl (fun _ hk => hk) hlive hp

lemma countMapped_cb (cbIndex : Nat) (p : Peer) : (p.countMapped cbIndex).cb = p.cb := by
  unfold Peer.countMapped
  split <;> rfl

lemma BindInv.countMapped (h : BindInv cfg s) (hlive : (s.proto.daemon.heap id).isSome = true) :
    BindInv cfg
      { s with proto := setPeer s.proto id ((s.proto.peers id).countMapped cfg.cbIndex) } := by
  have hconn := h.proto.conns id hlive
  have hcalls := h.calls id
  unfold Peer.countMapped
  split
  · refine h.actProto (h.proto.peer (hconn.congr_state hconn.up _)) rfl (fun _ hk => hk) hlive ?_
    exact hcalls.congr rfl rfl fun _ => ⟨rfl, rfl, rfl, rfl, rfl⟩
  · exact h.actProto (h.proto.peer hconn) rfl (fun _ hk => hk) hlive hcalls

lemma BindInv.memory (h : BindInv cfg s) {d : DaemonState}
    (hproto : ProtocolInv cfg { s.proto with daemon := d }) (hkeep : KeepsHeap s.proto.daemon d) :
    BindInv cfg { s with proto := { s.proto with daemon := d } } := by
  refine ⟨hproto, h.calls, fun k t hne => ?_⟩
  change (d.heap k).isSome = true
  rw [hkeep.2]
  exact h.live k t hne

/-- `evict_handler` answers EVICT or acts on STOP: no thread sees WAIT_OPS meanwhile. -/
lemma CallInv.observeEvict (h : CallInv maxMr cbIndex calls p)
    (hp : p.observeEvict maxMr = some p') : CallInv maxMr cbIndex calls p' := by
  simp only [Peer.observeEvict, Option.ite_none_right_eq_some, Option.some.injEq] at hp
  obtain ⟨⟨-, hstate⟩, rfl⟩ := hp
  refine h.post (m := (sendActivity maxMr p.sess p.cb).sendBuf) (by rintro ⟨⟩) rfl rfl fun hw => ?_
  cases hstate.symm.trans (h.ready hw)

lemma CallInv.observeStop (h : CallInv maxMr cbIndex calls p)
    (hp : p.observeStop cfg = some p') : CallInv maxMr cbIndex calls p' := by
  simp only [Peer.observeStop, Option.ite_none_right_eq_some] at hp
  obtain ⟨⟨-, hstate⟩, hp⟩ := hp
  have hwait : p.cb.state ≠ .waitOps := fun hw => by cases hstate.symm.trans (h.ready hw)
  split at hp
  · obtain rfl := Option.some.inj hp
    exact h.congr rfl rfl fun hw => (hwait hw).elim
  · obtain rfl := Option.some.inj hp
    refine h.post ?_ rfl rfl fun hw => (hwait hw).elim
    nofun

lemma BindInv.other (h : BindInv cfg s) (e : ProtocolEvent) (hcall : e.byCall = false)
    (henv : protocolEnv cfg s.proto e) (hfits : bindFitsCall cfg s (.other e)) {proto : Protocol}
    (hs : protocolStep cfg s.proto e = some proto) : BindInv cfg { s with proto := proto } := by
  have hinv : slotFree cfg s.proto e → ProtocolInv cfg proto := fun hslot =>
    h.proto.step e henv hslot hs
  cases e with
  | connect id junkIndex junkMsg sess => cases hcall
  | query id => cases hcall
  | bind id chunk => cases hcall
  | serve id mr => exact h.serve henv hfits hs
  | established id =>
    have hproto := hinv trivial
    simp only [protocolStep, sendFreeMemSize, Option.bind_eq_bind, Option.bind_eq_some_iff,
      Option.some.injEq] at hs
    obtain ⟨r, ⟨c, hc, rfl⟩, rfl⟩ := hs
    have hlive : (s.proto.daemon.heap id).isSome = true := by rw [hc, Option.isSome_some]
    refine h.actProto hproto rfl (fun k hk => (updateConn_live _ _ _ k).trans hk)
      ((updateConn_live _ _ _ id).trans hlive) ?_
    rw [sendMessage_updateConn hc, outboxTo_self]
    refine (h.calls id).deliver ?_ _
    rintro ⟨⟩
  | receive id =>
    have hproto := hinv trivial
    simp only [protocolStep, Option.bind_eq_bind, Option.bind_eq_some_iff] at hs
    obtain ⟨c, hc, hs⟩ := hs
    have hlive : (s.proto.daemon.heap id).isSome = true := by rw [hc, Option.isSome_some]
    split at hs
    next => cases hs
    next m rest hm =>
      obtain rfl := Option.some.inj hs
      refine h.actProto hproto rfl (fun _ hk => hk) hlive ?_
      exact (h.calls id).receive (h.proto.conn hc) hm
  | observeEvict id =>
    have hproto := hinv trivial
    simp only [protocolStep, Option.bind_eq_bind, Option.bind_eq_some_iff, Option.some.injEq] at hs
    obtain ⟨c, hc, p, hp, rfl⟩ := hs
    have hlive : (s.proto.daemon.heap id).isSome = true := by rw [hc, Option.isSome_some]
    exact h.actProto hproto rfl (fun _ hk => hk) hlive ((h.calls id).observeEvict hp)
  | observeStop id =>
    have hproto := hinv trivial
    simp only [protocolStep, Option.bind_eq_bind, Option.bind_eq_some_iff, Option.some.injEq] at hs
    obtain ⟨c, hc, p, hp, rfl⟩ := hs
    have hlive : (s.proto.daemon.heap id).isSome = true := by rw [hc, Option.isSome_some]
    exact h.actProto hproto rfl (fun _ hk => hk) hlive ((h.calls id).observeStop hp)
  | evict id n =>
    have hproto := hinv trivial
    simp only [protocolStep, Option.bind_eq_bind, Option.bind_eq_some_iff] at hs
    obtain ⟨c, hc, hs⟩ := hs
    have hlive : (s.proto.daemon.heap id).isSome = true := by rw [hc, Option.isSome_some]
    split at hs
    next hround =>
      obtain rfl := Option.some.inj hs
      refine h.actProto hproto rfl (fun k hk => (updateConn_live _ _ _ k).trans hk)
        ((updateConn_live _ _ _ id).trans hlive) ?_
      simp only [sendEvict]
      rw [sendMessage_updateConn hc, outboxTo_self]
      refine (h.calls id).deliver ?_ _
      rintro ⟨⟩
    next => cases hs
  | stop id n rkey =>
    have hproto := hinv trivial
    simp only [protocolStep, Option.bind_eq_bind, Option.bind_eq_some_iff] at hs
    obtain ⟨c, hc, hs⟩ := hs
    have hlive : (s.proto.daemon.heap id).isSome = true := by rw [hc, Option.isSome_some]
    split at hs
    next hround =>
      obtain rfl := Option.some.inj hs
      simp only [sendStop, updateConn_twice] at hproto ⊢
      refine h.actProto hproto rfl (fun k hk => (updateConn_live _ _ _ k).trans hk)
        ((updateConn_live _ _ _ id).trans hlive) ?_
      rw [sendMessage_updateConn hc, outboxTo_self]
      refine (h.calls id).deliver ?_ _
      rintro ⟨⟩
    next => cases hs
  | finish id =>
    have hproto := hinv trivial
    simp only [protocolStep] at hs
    split at hs
    next hround =>
      simp only [daemonStep, Option.bind_eq_bind, Option.bind_eq_some_iff, Option.some.injEq] at hs
      obtain ⟨d, hd, rfl⟩ := hs
      split at hd
      next c hc =>
        simp only [Option.ite_none_right_eq_some, Option.some.injEq] at hd
        obtain ⟨-, rfl⟩ := hd
        have hlive : (s.proto.daemon.heap id).isSome = true := by rw [hc, Option.isSome_some]
        refine h.actProto hproto rfl (fun k hk => (updateConn_live _ _ _ k).trans hk)
          ((updateConn_live _ _ _ id).trans hlive) ?_
        exact (h.calls id).congr rfl rfl fun _ => ⟨rfl, rfl, rfl, rfl, rfl⟩
      next => cases hd
    next => cases hs
  | freeForEvict lastFreeMemG =>
    have hproto := hinv trivial
    simp only [protocolStep, daemonStep, Option.bind_eq_bind, Option.bind_eq_some_iff,
      Option.ite_none_right_eq_some, Option.some.injEq] at hs
    obtain ⟨d, ⟨-, rfl⟩, rfl⟩ := hs
    exact h.memory hproto (keepsHeap_freeUnmapped cfg.daemon s.proto.daemon _)
  | expand lastFreeMemG =>
    have hproto := hinv trivial
    simp only [protocolStep, daemonStep, Option.bind_eq_bind, Option.bind_eq_some_iff,
      Option.ite_none_right_eq_some, Option.some.injEq] at hs
    obtain ⟨d, ⟨-, rfl⟩, rfl⟩ := hs
    exact h.memory hproto (keepsHeap_expandMem cfg.daemon s.proto.daemon _)

lemma BindInv.step (h : BindInv cfg s) (e : BindEvent) (henv : bindEnv cfg s e)
    (hfits : bindFitsCall cfg s e) (hs : bindSystemStep cfg s e = some s') : BindInv cfg s' := by
  cases e with
  | connect id t chunk junkIndex junkMsg sess => exact h.connect hfits hs
  | query id t chunk =>
    simp only [bindSystemStep, Option.ite_none_right_eq_some, Option.bind_eq_bind,
      Option.bind_eq_some_iff, Option.some.injEq, protoStep_eq_some] at hs
    obtain ⟨⟨hidle, -⟩, _, ⟨proto, hproto, rfl⟩, rfl⟩ := hs
    have hinv := h.proto.step (.query id) trivial trivial hproto
    simp only [protocolStep, Option.bind_eq_bind, Option.bind_eq_some_iff,
      Option.some.injEq] at hproto
    obtain ⟨c, hc, rfl⟩ := hproto
    have hlive : (s.proto.daemon.heap id).isSome = true := by rw [hc, Option.isSome_some]
    refine h.act hinv rfl rfl (fun _ hk => hk) hlive ?_
    have hp := (h.calls id).move t (.awaitFree chunk) (by rw [hidle]; rintro _ ⟨⟩) (by rintro _ ⟨⟩)
    refine hp.post ?_ rfl rfl fun _ => ⟨rfl, rfl, rfl, rfl, rfl⟩
    rintro ⟨⟩
  | consumeFree id t =>
    simp only [bindSystemStep, Option.ite_none_right_eq_some] at hs
    obtain ⟨-, hs⟩ := hs
    have hup : TestState.afterFreeMem.isConnected = true ∧ TestState.afterFreeMem ≠ .error :=
      ⟨rfl, (by rintro ⟨⟩)⟩
    split at hs
    next chunk hcall =>
      obtain rfl := Option.some.inj hs
      refine h.local (by rw [hcall]; rintro ⟨⟩) (fun _ _ hc => hc.congr_state hup _) ?_
      have hp := (h.calls id).move t (.chosen chunk (s.proto.peers id).cb.targetSizeG)
        (by rw [hcall]; rintro _ ⟨⟩) (by rintro _ ⟨⟩)
      exact hp.congr rfl rfl (by rintro ⟨⟩)
    next chunk hcall =>
      obtain rfl := Option.some.inj hs
      refine h.local (by rw [hcall]; rintro ⟨⟩) (fun _ _ hc => hc.congr_state hup _) ?_
      have hp := (h.calls id).move t (.chosen chunk (s.proto.peers id).cb.targetSizeG)
        (by rw [hcall]; rintro _ ⟨⟩) (by rintro _ ⟨⟩)
      exact hp.congr rfl rfl (by rintro ⟨⟩)
    next => cases hs
  | skip id t =>
    simp only [bindSystemStep] at hs
    split at hs
    next chunk freeMem hcall =>
      obtain rfl := Option.some.inj hs
      have hlive := h.live id t (by rw [hcall]; rintro ⟨⟩)
      have hpeers := (Function.update_eq_self id s.proto.peers).symm
      refine h.act h.proto hpeers rfl (fun _ hk => hk) hlive ?_
      exact (h.calls id).move t .idle (by rw [hcall]; rintro _ ⟨⟩) (by rintro _ ⟨⟩)
    next => cases hs
  | bind id t =>
    obtain ⟨hnone, hstate⟩ := hfits
    simp only [bindSystemStep] at hs
    split at hs
    next chunk freeMem hcall =>
      split at hs
      next => cases hs
      next =>
        simp only [Option.bind_eq_bind, Option.bind_eq_some_iff, Option.some.injEq,
          protoStep_eq_some] at hs
        obtain ⟨_, ⟨proto, hproto, rfl⟩, rfl⟩ := hs
        have hlive := h.live id t (by rw [hcall]; rintro ⟨⟩)
        have h₁ := h.countMapped hlive
        have hinv := h₁.proto.step (.bind id chunk) trivial trivial hproto
        simp only [protocolStep, Option.bind_eq_bind, Option.bind_eq_some_iff,
          Option.some.injEq] at hproto
        obtain ⟨c, -, rfl⟩ := hproto
        have hwait : ((s.proto.peers id).countMapped cfg.cbIndex).cb.state ≠ .waitOps := by
          rw [countMapped_cb]
          exact hstate
        have hp := h₁.calls id
        simp only [setPeer, Function.update_self] at hp hinv ⊢
        refine h₁.act hinv rfl rfl (fun _ hk => hk) hlive ?_
        exact hp.bind hnone hwait t chunk
    next => cases hs
  | finish id t =>
    simp only [bindSystemStep] at hs
    split at hs
    next chunk hcall =>
      simp only [Option.ite_none_right_eq_some, Option.some.injEq] at hs
      obtain ⟨hstate, rfl⟩ := hs
      refine h.local (by rw [hcall]; rintro ⟨⟩) (fun _ _ hc => hc.congr_state hc.up _) ?_
      have hp := (h.calls id).finish hcall hstate
      exact hp.congr rfl rfl fun _ => ⟨rfl, rfl, rfl, rfl, rfl⟩
    next => cases hs
  | other e =>
    simp only [bindSystemStep] at hs
    split at hs
    next => cases hs
    next hcall =>
      obtain ⟨proto, hproto, rfl⟩ := protoStep_eq_some.mp hs
      exact h.other e (Bool.eq_false_of_not_eq_true hcall) henv hfits hproto

/-- The chunk is on a slab of the server in both maps of the block device, and the daemon has
given the slab to this connection. -/
def ReallyBound (cfg : ProtocolCfg) (s : BindSystem) (id : ConnId) (chunk : Nat) : Prop :=
  (s.proto.peers id).sess.cbIndexMap chunk = cfg.cbIndex ∧
    ∃ i < cfg.daemon.maxFreeMemGb, (s.proto.peers id).sess.chunkMapCbChunk chunk = i ∧
      (s.proto.peers id).cb.chunkMap i = chunk ∧
      ∃ c, s.proto.daemon.heap id = some c ∧ s.proto.daemon.connMap i = c.connIndex ∧
        c.sessChunkMap i = i ∧ s.proto.daemon.mallocMap i = true

lemma BindInv.reallyBound (h : BindInv cfg s) (hlive : (s.proto.daemon.heap id).isSome = true)
    (hbound : ChunkBound cfg.daemon.maxFreeMemGb cfg.cbIndex (s.proto.peers id) chunk) :
    ReallyBound cfg s id chunk := by
  obtain ⟨hindex, i, hi, hchunk, hmap⟩ := hbound
  obtain ⟨c, hc⟩ := Option.isSome_iff_exists.mp hlive
  obtain ⟨hmalloc, hown, hsess⟩ := h.proto.slabsOwned.mapped id c hc i hi (by omega)
  exact ⟨hindex, i, hi, hchunk, hmap, c, hc, hown, hsess, hmalloc⟩

/-- In every run in which the daemon has a free slab whenever it handles BIND_SINGLE, connection
requests find an idle slot and BIND_SINGLE is sent by one thread at a time, a thread that
returns from `IS_single_chunk_map` with its chunk has it on a slab of the server. -/
theorem reported_bind_is_real (cfg : ProtocolCfg) (freeMemG : Int) {s s' : BindSystem}
    (h : GuardedRun (bindSystemStep cfg) (fun s e => bindEnv cfg s e ∧ bindFitsCall cfg s e)
      (bindSystemInit cfg freeMemG) s)
    {id : ConnId} {t : CallerId} {chunk : Nat} (hcall : s.calls id t = .awaitInfo chunk)
    (hs : bindSystemStep cfg s (.finish id t) = some s') : ReallyBound cfg s' id chunk := by
  have hinv : BindInv cfg s := by
    apply GuardedRun.invariant (bindInv_init cfg freeMemG) _ h
    intro s e s' hinv hok hs
    exact hinv.step e hok.1 hok.2 hs
  have hinv' := hinv.step (.finish id t) trivial trivial hs
  have hlive := hinv.live id t (by rw [hcall]; nofun)
  simp only [bindSystemStep, hcall, Option.ite_none_right_eq_some, Option.some.injEq] at hs
  obtain ⟨hstate, rfl⟩ := hs
  have hbound := ((hinv.calls id).bound_of_waitOps hcall hstate).2.2
  apply hinv'.reallyBound hlive
  change ChunkBound _ _ (Function.update s.proto.peers id (s.proto.peers id).switchOn id) _
  rw [Function.update_self]
  exact hbound

/-- The only thread of the only block device binds the slab for chunk 0. -/
theorem reported_bind_is_real_one_slab :
    ∃ s s', GuardedRun (bindSystemStep oneSlot)
        (fun s e => bindEnv oneSlot s e ∧ bindFitsCall oneSlot s e) (bindSystemInit oneSlot 1) s ∧
      s.calls 0 0 = .awaitInfo 0 ∧ bindSystemStep oneSlot s (.finish 0 0) = some s' ∧
      ReallyBound oneSlot s' 0 0 := by
  obtain ⟨s₁, hs₁⟩ : ∃ s₁, bindSystemStep oneSlot (bindSystemInit oneSlot 1)
      (.connect 0 0 0 (-1) emptyMessage (sessionCreate 1)) = some s₁ := ⟨_, rfl⟩
  have hrun₁ : GuardedRun (bindSystemStep oneSlot)
      (fun s e => bindEnv oneSlot s e ∧ bindFitsCall oneSlot s e) (bindSystemInit oneSlot 1) s₁ :=
    .next (.connect 0 0 0 (-1) emptyMessage (sessionCreate 1)) .start
      ⟨trivial, by unfold bindFitsCall; decide⟩ hs₁
  obtain ⟨s₂, hs₂, hnone, hstate⟩ : ∃ s₂, runActions (bindSystemStep oneSlot) s₁
      [.other (.established 0), .other (.receive 0), .consumeFree 0 0] = some s₂ ∧
      (∀ t chunk, s₂.calls 0 t ≠ .awaitInfo chunk) ∧ (s₂.proto.peers 0).cb.state ≠ .waitOps := by
    cases hs₁
    refine ⟨_, rfl, ?_, by decide⟩
    intro t chunk
    by_cases ht : t = 0
    · subst ht
      nofun
    · simp [setCall, bindSystemInit, ht]
  have hrun₂ := runActions_reaches [.other (.established 0), .other (.receive 0), .consumeFree 0 0]
    (fun e he s => by fin_cases he <;> exact ⟨trivial, trivial⟩) hrun₁ hs₂
  obtain ⟨s₃, hs₃, hfree⟩ : ∃ s₃, bindSystemStep oneSlot s₂ (.bind 0 0) = some s₃ ∧
      s₃.proto.daemon.freeSlab 0 = true := by
    cases hs₁
    cases hs₂
    exact ⟨_, rfl, rfl⟩
  have hrun₃ := hrun₂.next (BindEvent.bind 0 0) ⟨trivial, hnone, hstate⟩ hs₃
  obtain ⟨s₄, hs₄⟩ : ∃ s₄, bindSystemStep oneSlot s₃ (.other (.serve 0 keyOne)) = some s₄ := by
    cases hs₁
    cases hs₂
    cases hs₃
    exact ⟨_, rfl⟩
  have hrun₄ := hrun₃.next (BindEvent.other (.serve 0 keyOne)) ⟨keyOne_key, fun _ _ _ _ => ⟨0, by decide, hfree⟩⟩ hs₄
  obtain ⟨s₅, s₆, hs₅, hcall, hs₆⟩ : ∃ s₅ s₆, bindSystemStep oneSlot s₄ (.other (.receive 0)) = some s₅ ∧
      s₅.calls 0 0 = .awaitInfo 0 ∧ bindSystemStep oneSlot s₅ (.finish 0 0) = some s₆ := by
    cases hs₁
    cases hs₂
    cases hs₃
    cases hs₄
    exact ⟨_, _, rfl, rfl, rfl⟩
  have hrun₅ := hrun₄.next (BindEvent.other (.receive 0)) ⟨trivial, trivial⟩ hs₅
  exact ⟨s₅, s₆, hrun₅, hcall, hs₆, reported_bind_is_real oneSlot 1 hrun₅ hcall hs₆⟩

/-- A daemon with one slab that evicts below 1 GB of free memory. -/
def tightMemory : ProtocolCfg :=
  { daemon := ⟨1, 1, 1, 1, le_rfl⟩
    capacityG := 1
    cbIndex := 0 }

/-- The daemon offers its only slab, frees it and then has none for BIND_SINGLE: the call returns
chunk 0, which is on no server, and both sides have counted a bind. -/
theorem refused_bind_reported :
    ∃ s s', runActions (bindSystemStep tightMemory) (bindSystemInit tightMemory 2)
        [.connect 0 0 0 (-1) emptyMessage (sessionCreate 1), .other (.established 0),
          .other (.receive 0), .consumeFree 0 0, .other (.freeForEvict 0), .bind 0 0,
          .other (.serve 0 keyOne), .other (.receive 0)] = some s ∧
      s.calls 0 0 = .awaitInfo 0 ∧ bindSystemStep tightMemory s (.finish 0 0) = some s' ∧
      (s'.proto.peers 0).sess.cbIndexMap 0 = -1 ∧ (s'.proto.peers 0).cb.chunkMap 0 = -1 ∧
      (s'.proto.peers 0).sess.mappedCbNum = 1 ∧
      (s'.proto.peers 0).sess.cbStateList 0 = .mapped ∧
      s'.proto.daemon.connMap 0 = -1 ∧ s'.proto.daemon.mappedSize = 1 ∧
      (s'.proto.daemon.heap 0).map (·.mappedChunkSize) = some 1 := by
  refine ⟨_, _, rfl, rfl, rfl, ?_⟩
  decide

end DisStore.Proofs
