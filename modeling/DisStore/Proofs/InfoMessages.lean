import DisStore.Client
import DisStore.Proofs.DaemonBooks

/-!
# What a client reads out of INFO and INFO_SINGLE

The daemon writes the address and the key of every slab it gives away into a message whose
keys it has cleared before; the client enters the slabs whose key is not zero.
-/

namespace DisStore.Proofs
open DisStore DisStore.Lib

variable {cfg : DaemonConfig} {id : ConnId} {d : DaemonState} {c : Connection}

/-- A connection that has been given the slabs. -/
def grantedConn (mr : Nat → MemRegion) (slabs : List Nat) (c : Connection) : Connection :=
  { c with
    sessChunkMap := fun i => if i ∈ slabs then (i : Int) else c.sessChunkMap i
    sendMsg := { c.sendMsg with
      buf := fun i => if i ∈ slabs then htonll (mr i).addr else c.sendMsg.buf i
      rkey := fun i => if i ∈ slabs then htonl (mr i).rkey else c.sendMsg.rkey i } }

lemma foldl_bindSlab (id : ConnId) (connIndex : Int) (mr : Nat → MemRegion) (slabs : List Nat)
    (d : DaemonState) :
    slabs.foldl (fun d i => bindSlab d id connIndex mr i) d =
      { d.updateConn id (grantedConn mr slabs) with
        connMap := fun i => if i ∈ slabs then connIndex else d.connMap i } := by
  induction slabs generalizing d with
  | nil =>
    have hsame : grantedConn mr [] = fun c => c := by
      funext c
      simp [grantedConn]
    simp [hsame, DaemonState.updateConn]
  | cons i slabs ih =>
    rw [List.foldl_cons, ih]
    have hboth : grantedConn mr slabs ∘ (fun c => { c with
        sessChunkMap := Function.update c.sessChunkMap i i
        sendMsg := { c.sendMsg with
          buf := Function.update c.sendMsg.buf i (htonll (mr i).addr)
          rkey := Function.update c.sendMsg.rkey i (htonl (mr i).rkey) } }) =
        grantedConn mr (i :: slabs) := by
      funext c
      unfold grantedConn
      simp only [Function.comp_apply, Function.update_apply]
      congr 2
      all_goals
        funext k
        by_cases hk : k = i
        · subst hk
          simp
        · simp [hk]
    have hmap : (fun k => if k ∈ slabs then connIndex else Function.update d.connMap i connIndex k) =
        fun k => if k ∈ i :: slabs then connIndex else d.connMap k := by
      funext k
      by_cases hk : k = i
      · subst hk
        simp
      · simp [hk]
    rw [← hboth, ← updateConn_twice, ← hmap]
    rfl

/-- The message with the addresses and keys of the slabs. -/
def infoMessage (mr : Nat → MemRegion) (slabs : List Nat) (old : Message) (sizeGb : Int)
    (type : MsgType) : Message :=
  { buf := fun i => if i ∈ slabs then htonll (mr i).addr else old.buf i
    rkey := fun i => if i ∈ slabs then htonl (mr i).rkey else 0
    sizeGb := sizeGb
    type := type }

/-- The daemon gives away the slabs, changes no other entry of `conn_map` and answers with the
message about them. -/
structure Grants (mr : Nat → MemRegion) (id : ConnId) (c : Connection) (slabs : List Nat)
    (sizeGb : Int) (type : MsgType) (d : DaemonState) (r : DaemonState × Outbox) : Prop where
  connMap : ∀ i, r.1.connMap i = if i ∈ slabs then c.connIndex else d.connMap i
  reply : r.2 = [(id, infoMessage mr slabs c.sendMsg sizeGb type)]

lemma sendMr_grants (cfg : DaemonConfig) (hc : d.heap id = some c) (mr : Nat → MemRegion)
    {size : Int} (hsize : 1 ≤ size) :
    ∃ r, sendMr cfg mr d id size = some r ∧
      Grants mr id c (firstFree cfg d size.toNat) size .info d r := by
  have hloop : ∀ d₁ : DaemonState, sendMrLoop id c.connIndex mr size
      (List.range cfg.maxFreeMemGb) d₁ =
        { d₁.updateConn id (grantedConn mr (firstFree cfg d₁ size.toNat)) with
          connMap := fun i =>
            if i ∈ firstFree cfg d₁ size.toNat then c.connIndex else d₁.connMap i } := by
    intro d₁
    rw [← foldl_bindSlab, sendMrLoop, takeLoop_eq_foldl _ _ _ List.nodup_range (by omega), sub_zero]
    · rfl
    · intro d' i k hk
      simp [DaemonState.freeSlab, bindSlab, DaemonState.updateConn, hk]
  simp only [sendMr, hc, Option.bind_eq_bind, Option.bind_some, hloop]
  refine ⟨_, rfl, fun i => rfl, ?_⟩
  rw [sendMessage_updateConn (c := grantedConn mr (firstFree cfg d size.toNat)
    { c with sendMsg := { c.sendMsg with sizeGb := size, rkey := fun _ => 0 } })]
  · rfl
  · change ((d.updateConn id _).updateConn id _).heap id = _
    rw [updateConn_twice, updateConn_of_some id _ hc, if_pos rfl]
    rfl

lemma firstFree_one {o : Option Nat} (h : (List.range cfg.maxFreeMemGb).find? d.freeSlab = o) :
    firstFree cfg d 1 = o.toList := by
  rw [← h, ← List.head?_filter, firstFree]
  cases (List.range cfg.maxFreeMemGb).filter d.freeSlab with
  | nil => rfl
  | cons i rest => simp

lemma sendSingleMr_grants (cfg : DaemonConfig) (hc : d.heap id = some c) (mr : Nat → MemRegion)
    (chunk : Int) :
    ∃ r, sendSingleMr cfg mr d id chunk = some r ∧
      Grants mr id c (firstFree cfg d 1) chunk .infoSingle d r := by
  have hc₁ := updateConn_of_some id (fun c =>
    { c with sendMsg := { c.sendMsg with sizeGb := chunk, rkey := fun _ => 0 } }) hc
  rw [if_pos rfl] at hc₁
  have hfree : ∀ o, (List.range cfg.maxFreeMemGb).find? (d.updateConn id fun c =>
      { c with sendMsg := { c.sendMsg with sizeGb := chunk, rkey := fun _ => 0 } }).freeSlab = o →
      firstFree cfg d 1 = o.toList := fun o ho => firstFree_one ho
  set d₁ := d.updateConn id fun c =>
    { c with sendMsg := { c.sendMsg with sizeGb := chunk, rkey := fun _ => 0 } } with hd₁
  simp only [sendSingleMr, hc, Option.bind_eq_bind, Option.bind_some, ← hd₁]
  cases hfind : (List.range cfg.maxFreeMemGb).find? d₁.freeSlab with
  | none =>
    rw [hfree _ hfind]
    refine ⟨_, rfl, fun i => rfl, ?_⟩
    exact sendMessage_updateConn (d := { d₁ with mappedSize := d₁.mappedSize + 1 }) hc₁ _
  | some i =>
    have hbound := foldl_bindSlab id c.connIndex mr [i] d₁
    rw [List.foldl_cons, List.foldl_nil] at hbound
    rw [hfree _ hfind]
    simp only [hbound]
    refine ⟨_, rfl, fun k => rfl, ?_⟩
    rw [sendMessage_updateConn (c := grantedConn mr [i]
      { c with sendMsg := { c.sendMsg with sizeGb := chunk, rkey := fun _ => 0 } })]
    · rfl
    · exact (updateConn_of_some id (grantedConn mr [i]) hc₁).trans (congrArg some (if_pos rfl))

/-- A message in which the keys of exactly the listed slabs are not zero. -/
structure NamesSlabs (maxMr : Nat) (slabs : List Nat) (msg : Message) : Prop where
  lt : ∀ i ∈ slabs, i < maxMr
  key : ∀ i, msg.rkey i ≠ 0 ↔ i ∈ slabs

/-- The control block has entered the listed slabs as the message has them, and left all
others alone. -/
structure Entered (slabs : List Nat) (msg : Message) (cb cb' : ControlBlock) : Prop where
  given : ∀ i ∈ slabs, cb'.chunkList i = receivedChunk msg i ∧ cb'.remoteMapped i = true
  others : ∀ i, i ∉ slabs → cb'.chunkList i = cb.chunkList i ∧ cb'.chunkMap i = cb.chunkMap i ∧
    cb'.remoteMapped i = cb.remoteMapped i

lemma foldl_chunkListEntry (cbIndex : Nat) (slabs : List Nat) (s : Session) (cb : ControlBlock) :
    Entered slabs cb.recvBuf cb (slabs.foldl (chunkListEntry cbIndex) (s, cb)).2 := by
  induction slabs generalizing s cb with
  | nil => exact ⟨fun i hi => (List.not_mem_nil hi).elim, fun i _ => ⟨rfl, rfl, rfl⟩⟩
  | cons i slabs ih =>
    rw [List.foldl_cons]
    -- a slab of the rest keeps what the rest enters, and entering `i` again would not matter
    set next := chunkListEntry cbIndex (s, cb) i with hnext
    have hrest := ih next.1 next.2
    have hrecv : next.2.recvBuf = cb.recvBuf := rfl
    rw [hrecv] at hrest
    constructor
    · intro k hk
      by_cases hmem : k ∈ slabs
      · exact hrest.given k hmem
      · obtain rfl : k = i := (List.mem_cons.mp hk).resolve_right hmem
        obtain ⟨hlist, -, hmapped⟩ := hrest.others k hmem
        rw [hlist, hmapped]
        exact ⟨Function.update_self .., Function.update_self ..⟩
    · intro k hk
      have hne : k ≠ i := List.ne_of_not_mem_cons hk
      obtain ⟨hlist, hmap, hmapped⟩ := hrest.others k (List.not_mem_of_not_mem_cons hk)
      rw [hlist, hmap, hmapped]
      exact ⟨Function.update_of_ne hne .., Function.update_of_ne hne ..,
        Function.update_of_ne hne ..⟩

lemma Entered.congr {slabs slabs' : List Nat} {msg : Message} {cb cb' : ControlBlock}
    (h : Entered slabs msg cb cb') (hmem : ∀ i, i ∈ slabs' ↔ i ∈ slabs) :
    Entered slabs' msg cb cb' :=
  ⟨fun i hi => h.given i ((hmem i).mp hi), fun i hi => h.others i fun hi' => hi ((hmem i).mpr hi')⟩

lemma chunkListInit_entered {maxMr : Nat} (cbIndex : Nat) (s : Session) {slabs : List Nat}
    (cb : ControlBlock) (h : NamesSlabs maxMr slabs cb.recvBuf) :
    Entered slabs cb.recvBuf cb (chunkListInit maxMr cbIndex s cb).2 := by
  have hloop := foldl_chunkListEntry cbIndex
    ((List.range maxMr).filter fun i => decide (cb.recvBuf.rkey i ≠ 0)) s cb
  have hmem : ∀ i, i ∈ slabs ↔
      i ∈ (List.range maxMr).filter fun i => decide (cb.recvBuf.rkey i ≠ 0) := by
    intro i
    rw [List.mem_filter, List.mem_range, decide_eq_true_iff, h.key i]
    exact ⟨fun hi => ⟨h.lt i hi, hi⟩, And.right⟩
  have hentered := hloop.congr hmem
  exact ⟨hentered.given, hentered.others⟩

lemma singleChunkInit_entered {maxMr : Nat} (cbIndex : Nat) (s : Session) {i : Nat}
    (cb : ControlBlock) (h : NamesSlabs maxMr [i] cb.recvBuf) :
    Entered [i] cb.recvBuf cb (singleChunkInit maxMr cbIndex s cb).2 := by
  have hfind : grantedSlab maxMr cb.recvBuf = some i := by
    have hi := (h.key i).mpr List.mem_cons_self
    cases hf : grantedSlab maxMr cb.recvBuf with
    | none =>
      have hno := List.find?_eq_none.mp hf i (List.mem_range.mpr (h.lt i List.mem_cons_self))
      exact absurd (decide_eq_true hi) hno
    | some k =>
      have hk := List.find?_some hf
      rw [decide_eq_true_iff, h.key k, List.mem_singleton] at hk
      rw [hk]
  simp only [singleChunkInit, hfind]
  constructor
  · intro k hk
    rw [List.mem_singleton.mp hk]
    exact ⟨Function.update_self .., Function.update_self ..⟩
  · intro k hk
    have hne : k ≠ i := fun he => hk (List.mem_singleton.mpr he)
    exact ⟨Function.update_of_ne hne .., Function.update_of_ne hne .., Function.update_of_ne hne ..⟩

/-- Addresses of 64 bits and keys of 32 bits, which are not zero. -/
def ValidRegions (mr : Nat → MemRegion) : Prop :=
  ∀ i, (mr i).addr < 2 ^ 64 ∧ (mr i).rkey < 2 ^ 32 ∧ (mr i).rkey ≠ 0

lemma namesSlabs_infoMessage {mr : Nat → MemRegion} (hmr : ValidRegions mr) {maxMr : Nat}
    {slabs : List Nat} (hlt : ∀ i ∈ slabs, i < maxMr) (old : Message) (sizeGb : Int)
    (type : MsgType) : NamesSlabs maxMr slabs (infoMessage mr slabs old sizeGb type) := by
  refine ⟨hlt, fun i => ?_⟩
  change (if i ∈ slabs then htonl (mr i).rkey else 0) ≠ 0 ↔ _
  split_ifs with hi
  · simp only [ne_eq, htonl_eq_zero (hmr i).2.1, (hmr i).2.2, not_false_eq_true, hi]
  · simp [hi]

lemma receivedChunk_infoMessage {mr : Nat → MemRegion} (hmr : ValidRegions mr) {slabs : List Nat}
    {i : Nat} (hi : i ∈ slabs) (old : Message) (sizeGb : Int) (type : MsgType) :
    receivedChunk (infoMessage mr slabs old sizeGb type) i =
      ⟨(mr i).rkey, (mr i).addr, bitmapInit⟩ := by
  unfold receivedChunk infoMessage
  simp only [if_pos hi]
  rw [htonl_htonl (hmr i).2.1, htonll_eq_ntohll (hmr i).1, ntohll_ntohll (hmr i).1]

/-- The client has recorded the addresses and keys of the slabs, and nothing of other slabs. -/
structure Recorded (mr : Nat → MemRegion) (slabs : List Nat) (cb cb' : ControlBlock) : Prop where
  given : ∀ i ∈ slabs, cb'.chunkList i = ⟨(mr i).rkey, (mr i).addr, bitmapInit⟩ ∧
    cb'.remoteMapped i = true
  others : ∀ i, i ∉ slabs → cb'.chunkList i = cb.chunkList i ∧ cb'.chunkMap i = cb.chunkMap i ∧
    cb'.remoteMapped i = cb.remoteMapped i

lemma Entered.recorded {mr : Nat → MemRegion} (hmr : ValidRegions mr) {slabs : List Nat}
    {old : Message} {sizeGb : Int} {type : MsgType} {cb cb' : ControlBlock}
    (h : Entered slabs (infoMessage mr slabs old sizeGb type) cb cb') :
    Recorded mr slabs cb cb' := by
  refine ⟨fun i hi => ?_, h.others⟩
  obtain ⟨hlist, hmapped⟩ := h.given i hi
  rw [hlist, receivedChunk_infoMessage hmr hi]
  exact ⟨rfl, hmapped⟩

/-- A request for slabs that the daemon can satisfy, and how many it asks for. -/
def requestFits (cfg : DaemonConfig) (d : DaemonState) (req : Message) (n : Nat) : Prop :=
  n ≤ freeSlabs cfg d ∧
    (req.type = .bind ∧ 1 ≤ req.sizeGb ∧ n = req.sizeGb.toNat ∨ req.type = .bindSingle ∧ n = 1)

lemma onRecv_grants (hc : d.heap id = some c) (mr : Nat → MemRegion) {req : Message} {n : Nat}
    (hreq : requestFits cfg d req n) :
    ∃ d' type, onRecv cfg mr d id req =
        some (d', [(id, infoMessage mr (firstFree cfg d n) c.sendMsg req.sizeGb type)]) ∧
      (type = .info ∨ type = .infoSingle ∧ n = 1) ∧
      ∀ i, d'.connMap i = if i ∈ firstFree cfg d n then c.connIndex else d.connMap i := by
  have hheap := updateConn_of_some id (fun c => { c with recvMsg := req }) hc
  rw [if_pos rfl] at hheap
  obtain ⟨-, ⟨htype, hsize, hn⟩ | ⟨htype, hn⟩⟩ := hreq
  · obtain ⟨r, hsend, hgrant⟩ := sendMr_grants cfg hheap mr hsize
    refine ⟨{ r.1 with connsState := Function.update r.1.connsState c.connIndex .mapped }, .info,
      ?_, .inl rfl, ?_⟩
    · simp only [onRecv, hc, htype, Option.bind_eq_bind, Option.bind_some, hsend, hgrant.reply, hn]
      rfl
    · rw [hn]
      exact hgrant.connMap
  · obtain ⟨r, hsend, hgrant⟩ := sendSingleMr_grants cfg hheap mr req.sizeGb
    refine ⟨{ r.1 with connsState := Function.update r.1.connsState c.connIndex .mapped },
      .infoSingle, ?_, .inr ⟨rfl, hn⟩, ?_⟩
    · simp only [onRecv, hc, htype, Option.bind_eq_bind, Option.bind_some, hsend, hgrant.reply, hn]
      rfl
    · rw [hn]
      exact hgrant.connMap

/-- The handler that the type of the message selects has entered the slabs. -/
def handlerEnters (maxMr cbIndex : Nat) (slabs : List Nat) (s : Session) (cb : ControlBlock)
    (msg : Message) : Prop :=
  msg.type = .info ∧
      Entered slabs msg cb (chunkListInit maxMr cbIndex s { cb with recvBuf := msg }).2 ∨
    msg.type = .infoSingle ∧
      Entered slabs msg cb (singleChunkInit maxMr cbIndex s { cb with recvBuf := msg }).2

lemma handlerEnters_of_names {maxMr : Nat} (cbIndex : Nat) (s : Session) (cb : ControlBlock)
    {msg : Message} {slabs : List Nat} (h : NamesSlabs maxMr slabs msg)
    (htype : msg.type = .info ∨ msg.type = .infoSingle ∧ slabs.length = 1) :
    handlerEnters maxMr cbIndex slabs s cb msg := by
  rcases htype with htype | ⟨htype, hlen⟩
  · have hinit := chunkListInit_entered cbIndex s { cb with recvBuf := msg } h
    exact .inl ⟨htype, hinit.given, hinit.others⟩
  · obtain ⟨i, rfl⟩ := List.length_eq_one_iff.mp hlen
    have hinit := singleChunkInit_entered cbIndex s { cb with recvBuf := msg } h
    exact .inr ⟨htype, hinit.given, hinit.others⟩

lemma handlerEnters.cqRecv {maxMr cbIndex : Nat} {s : Session} {cb : ControlBlock} {msg : Message}
    {slabs : List Nat} (hup : cb.state.isConnected = true) (hok : cb.state ≠ .error)
    (h : handlerEnters maxMr cbIndex slabs
      { s with cbStateList := Function.update s.cbStateList cbIndex .mapped }
      { cb with state := .waitOps } msg) :
    Entered slabs msg cb (cqRecv maxMr cbIndex s cb msg).2 := by
  rcases h with ⟨htype, h⟩ | ⟨htype, h⟩
  · rw [cqRecv_info maxMr cbIndex s hup hok htype]
    exact ⟨h.given, h.others⟩
  · rw [cqRecv_infoSingle maxMr cbIndex s hup hok htype]
    exact ⟨h.given, h.others⟩

/-- A request that the daemon can satisfy is answered with as many free slabs as it asks for.
The handler of the answer then leaves the daemon's own address and key for exactly these slabs,
whatever was left in the buffer of the message; so does `client_recv` of a connected server. -/
theorem info_round_trip (cfg : DaemonConfig) (mr : Nat → MemRegion) (d : DaemonState)
    (id : ConnId) (c : Connection) (req : Message) (n cbIndex : Nat) (s : Session)
    (cb : ControlBlock) (hc : d.heap id = some c) (hmr : ValidRegions mr)
    (hreq : requestFits cfg d req n) :
    ∃ d' reply slabs, onRecv cfg mr d id req = some (d', [(id, reply)]) ∧
      slabs.Nodup ∧ slabs.length = n ∧
      (∀ i ∈ slabs, i < cfg.maxFreeMemGb ∧ d.freeSlab i = true) ∧
      (∀ i, d'.connMap i = if i ∈ slabs then c.connIndex else d.connMap i) ∧
      (reply.type = .info ∧ Recorded mr slabs cb
          (chunkListInit cfg.maxFreeMemGb cbIndex s { cb with recvBuf := reply }).2 ∨
        reply.type = .infoSingle ∧ Recorded mr slabs cb
          (singleChunkInit cfg.maxFreeMemGb cbIndex s { cb with recvBuf := reply }).2) ∧
      (cb.state.isConnected = true → cb.state ≠ .error →
        Recorded mr slabs cb (cqRecv cfg.maxFreeMemGb cbIndex s cb reply).2) := by
  obtain ⟨d', type, hrecv, htype, hmap⟩ := onRecv_grants hc mr hreq
  have hlen := firstFree_length hreq.1
  have hlt : ∀ i ∈ firstFree cfg d n, i < cfg.maxFreeMemGb := fun i hi => (mem_firstFree hi).1
  have hnames := namesSlabs_infoMessage hmr hlt c.sendMsg req.sizeGb type
  have henters := fun s cb => handlerEnters_of_names cbIndex s cb hnames
    (htype.imp_right fun h => ⟨h.1, hlen.trans h.2⟩)
  refine ⟨d', _, firstFree cfg d n, hrecv, firstFree_nodup cfg d n, hlen,
    fun i hi => mem_firstFree hi, hmap, ?_, ?_⟩
  · exact (henters s cb).imp (And.imp_right (Entered.recorded hmr))
      (And.imp_right (Entered.recorded hmr))
  · intro hup hok
    exact ((henters _ _).cqRecv hup hok).recorded hmr

/-- A daemon with one connection and two free slabs; the buffer of its messages is not empty. -/
def twoFreeSlabs : DaemonState :=
  { rdmaSessionInit (zeroThresholds 2 1) 2 with
    heap := Function.update (fun _ => none) 0
      (some ⟨0, fun _ => -1, 0, ⟨fun _ => 5, fun _ => 5, 0, .query⟩, emptyMessage, 0, 0⟩) }

/-- A client is given both slabs. -/
theorem info_round_trip_two_slabs :
    ∃ d' reply slabs, onRecv (zeroThresholds 2 1) (fun _ => ⟨2 ^ 40, 17⟩) twoFreeSlabs 0
        { emptyMessage with type := .bind, sizeGb := 2 } = some (d', [(0, reply)]) ∧
      slabs.length = 2 ∧
      Recorded (fun _ => ⟨2 ^ 40, 17⟩) slabs { kernelCbInit with state := .connected }
        (cqRecv 2 0 (sessionCreate 8) { kernelCbInit with state := .connected } reply).2 := by
  have hmr : ValidRegions fun _ => ⟨2 ^ 40, 17⟩ := fun _ => ⟨by norm_num, by norm_num, by norm_num⟩
  obtain ⟨d', reply, slabs, hrecv, -, hlen, -, -, -, hrecorded⟩ :=
    info_round_trip (zeroThresholds 2 1) (fun _ => ⟨2 ^ 40, 17⟩) twoFreeSlabs 0 _
      { emptyMessage with type := .bind, sizeGb := 2 } 2 0 (sessionCreate 8)
      { kernelCbInit with state := .connected } rfl hmr ⟨by decide, .inl ⟨rfl, by decide, rfl⟩⟩
  exact ⟨d', reply, slabs, hrecv, hlen, hrecorded rfl (by decide)⟩

end DisStore.Proofs
