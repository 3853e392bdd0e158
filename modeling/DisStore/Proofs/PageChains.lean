import DisStore.PageStore
import DisStore.Proofs.Contexts
import DisStore.Proofs.MemGather

/-!
# The bios of a request

`mem_gather` and `stackbd_bio_generate` count a page for each segment. They copy the data of a
request if each of its bios is one run of as many pages as it has segments. A read has one page,
which is where both `client_read_done` and the disk put it.
-/

namespace DisStore.Proofs
open DisStore DisStore.Lib

variable {α : Type} {req : Request} {mem : Nat → Nat → α}

/-- Each bio is one run of as many pages as it has segments. -/
def PageRuns (req : Request) : Prop :=
  ∀ b ∈ req.bios, b.addresses = List.range' b.data b.physSegments

instance (req : Request) : Decidable (PageRuns req) :=
  inferInstanceAs (Decidable (∀ b ∈ req.bios, _))

section Chains

lemma length_places_addresses (req : Request) :
    (places Bio.addresses 0 req.bios).length = req.bytes :=
  length_places 0 req.bios

lemma PageRuns.nrPhysSegments (h : PageRuns req) : req.nrPhysSegments = req.bytes := by
  unfold Request.nrPhysSegments Request.bytes
  congr 1
  apply List.map_congr_left
  intro b hb
  rw [h b hb, List.length_range']

lemma PageRuns.gather (h : PageRuns req) (mem : Nat → Nat → α) (buf : Nat → α) :
    ∃ buf', gatherLoop 1 mem req.nrPhysSegments 0 0 req.bios buf = some buf' ∧
      ∀ j < req.bytes, buf' j = requestPage mem req j := by
  obtain ⟨buf', hloop, hpages, -⟩ := gatherLoop_eq 1 mem 0 req.bios buf
    (show req.nrPhysSegments = 0 + _ from (Nat.zero_add _).symm)
  refine ⟨buf', hloop, fun j hj => ?_⟩
  have hplaces : places (pagesFrom 1) 0 req.bios = places Bio.addresses 0 req.bios := by
    apply places_congr
    intro b hb
    rw [h b hb, pagesFrom, Nat.one_mul]
  have hlt : j < (places Bio.addresses 0 req.bios).length := by
    rwa [length_places_addresses]
  have hat := congrArg (fun l => l[j]?) hpages
  rw [hplaces, bytesAt] at hat
  simp only [Nat.sub_zero, Nat.mul_one, h.nrPhysSegments, List.getElem?_map,
    List.getElem?_range' hj, List.getElem?_eq_getElem hlt, Option.map_some, Option.some.injEq,
    Nat.zero_add, Nat.one_mul] at hat
  rw [hat, requestPage, List.getD_eq_getElem?_getD, List.getElem?_eq_getElem hlt, Option.getD_some]

lemma addresses_length_pos (b : Bio) : 0 < b.addresses.length := by
  obtain ⟨seg, rest, hsegments⟩ := List.exists_cons_of_ne_nil b.segments_ne
  have hpos := seg.len_pos
  rw [Bio.addresses, hsegments, List.flatMap_cons, List.length_append, List.length_range']
  omega

lemma addresses_of_length_one {b : Bio} (h : b.addresses.length = 1) : b.addresses = [b.data] := by
  obtain ⟨seg, rest, hsegments⟩ := List.exists_cons_of_ne_nil b.segments_ne
  have hdata : b.data = seg.addr := by
    simp only [Bio.data, hsegments, List.head_cons]
  have hpos := seg.len_pos
  rw [Bio.addresses, hsegments, List.flatMap_cons] at h ⊢
  rw [List.length_append, List.length_range'] at h
  have hlen : seg.len = 1 := by omega
  have hrest : rest.flatMap (fun s => List.range' s.addr s.len) = [] :=
    List.eq_nil_of_length_eq_zero (by omega)
  rw [hrest, hlen, hdata, List.append_nil]
  rfl

lemma places_of_bytes_one (h : req.bytes = 1) :
    places Bio.addresses 0 req.bios = [(0, (req.bios.head req.bios_ne).data)] := by
  obtain ⟨b, rest, hbios⟩ := List.exists_cons_of_ne_nil req.bios_ne
  have hhead : req.bios.head req.bios_ne = b := by
    simp only [hbios, List.head_cons]
  rw [Request.bytes, hbios, List.map_cons, List.sum_cons] at h
  have hpos := addresses_length_pos b
  have hrest : rest = [] := by
    cases rest with
    | nil => rfl
    | cons b' rest' =>
      have hpos' := addresses_length_pos b'
      rw [List.map_cons, List.sum_cons] at h
      omega
  subst hrest
  rw [List.map_nil, List.sum_nil, Nat.add_zero] at h
  rw [hhead, hbios, places, places, addresses_of_length_one h]
  rfl

lemma requestPage_fillFirst (h : req.bytes = 1) (a : α) :
    requestPage (fillFirst mem req a) req 0 = a := by
  rw [requestPage, places_of_bytes_one h]
  simp only [List.getD_cons_zero, fillFirst, Function.update_self]

lemma requestPage_fillPages (h : req.bytes = 1) (content : Nat → α) :
    requestPage (fillPages mem req content) req 0 = content 0 := by
  rw [requestPage, places_of_bytes_one h]
  simp only [List.getD_cons_zero, fillPages, places_of_bytes_one h, List.idxOf_cons_self, h,
    Nat.one_pos, if_true]

end Chains

/-- The bios of a request have its pages, and a mirrored bio writes them. -/
structure ChainInv (s : PageStore α) : Prop where
  pages : ∀ q < s.submitted, (s.chains q).bytes = (s.reqs q).pages
  mirror : ∀ x w, .mirror x w ∈ s.dev.bios →
    w < s.submitted ∧ (s.chains w).nrPhysSegments = (s.reqs w).pages

section Invariant

variable {cfg : DeviceCfg} {capacityG : Nat} {d d' : Device} {s s' : PageStore α} {x : CtxId}
  {w : Nat}

lemma handleEvent_mirror {e : DeviceEvent} (hs : handleEvent cfg d e = some d')
    (hbio : .mirror x w ∈ d'.bios) : .mirror x w ∈ d.bios ∨
      ∃ k queue success tr, e = .post k queue success ∧ d.waiting[k]? = some tr ∧
        d.tables.sess.rdmaOn = true ∧ tr.write = true ∧ tr.req = w := by
  have happend : ∀ {q}, .mirror x w ∈ d.bios ++ [.request q] → .mirror x w ∈ d.bios := by
    intro q hmem
    rcases List.mem_append.mp hmem with hold | hnew
    · exact hold
    · cases List.mem_singleton.mp hnew
  cases e with
  | route q r =>
    simp only [handleEvent] at hs
    split at hs <;> cases hs
    · exact .inl (happend hbio)
    · exact .inl hbio
  | post k queue success =>
    obtain ⟨tr, y, pool, v, hk, -, rfl, -, hcase⟩ := handleEvent_post hs
    have hmirror : d.tables.sess.rdmaOn = true → .mirror x w ∈ d.bios ++ mirrorOf y tr →
        .mirror x w ∈ d.bios ∨ ∃ k' queue' success' tr',
          DeviceEvent.post k queue success = .post k' queue' success' ∧ d.waiting[k']? = some tr' ∧
          d.tables.sess.rdmaOn = true ∧ tr'.write = true ∧ tr'.req = w := by
      intro hon hmem
      refine (List.mem_append.mp hmem).imp_right fun hnew => ?_
      unfold mirrorOf at hnew
      split at hnew
      · next hwrite =>
        cases List.mem_singleton.mp hnew
        exact ⟨k, queue, success, tr, rfl, hk, hon, hwrite, rfl⟩
      · cases hnew
    rcases hcase with ⟨-, rfl⟩ | ⟨hon, -, rfl⟩ | ⟨hon, -, rfl⟩
    · exact .inl (happend hbio)
    · exact hmirror hon hbio
    · exact hmirror hon hbio
  | complete k flushed =>
    simp only [handleEvent, Option.bind_eq_bind, Option.bind_eq_some_iff] at hs
    obtain ⟨wr, -, hs⟩ := hs
    rw [(cqEvent_keeps hs).2.2] at hbio
    exact .inl hbio
  | diskDone k =>
    simp only [handleEvent, Option.bind_eq_bind, Option.bind_eq_some_iff, Option.some.injEq] at hs
    obtain ⟨bio, -, rfl⟩ := hs
    cases bio <;> exact .inl (List.mem_of_mem_eraseIdx hbio)
  | unmap c stop =>
    simp only [handleEvent] at hs
    split at hs <;> cases hs
    exact .inl hbio
  | drain c =>
    simp only [handleEvent, Option.bind_eq_bind, Option.bind_eq_some_iff, Option.some.injEq] at hs
    obtain ⟨k, -, y, -, rfl⟩ := hs
    exact .inl hbio
  | sendDone c =>
    simp only [handleEvent] at hs
    split at hs <;> cases hs
    exact .inl hbio
  | disconnect c =>
    simp only [handleEvent] at hs
    split at hs
    · cases hs
    · split at hs <;> cases hs <;> exact .inl hbio
  | scan c =>
    simp only [handleEvent, Option.bind_eq_bind, Option.bind_eq_some_iff] at hs
    obtain ⟨k, -, y, -, hs⟩ := hs
    unfold scanCtx at hs
    dsimp only at hs
    split at hs
    · obtain ⟨q, -, rfl⟩ := Option.map_eq_some_iff.mp hs
      exact .inl (happend hbio)
    · split at hs <;> cases hs <;> exact .inl hbio
    · cases hs
      exact .inl hbio
  | forget c =>
    simp only [handleEvent] at hs
    split at hs <;> cases hs
    exact .inl hbio

lemma deviceStep_mirror {e : DeviceEvent} (hpost : ∀ k queue success, e ≠ .post k queue success)
    (hs : deviceStep cfg d e = some d') (hbio : .mirror x w ∈ d'.bios) : .mirror x w ∈ d.bios := by
  rcases deviceStep_cases hs with rfl | ⟨-, hs⟩
  · exact hbio
  · rcases handleEvent_mirror hs hbio with hold | ⟨k, queue, success, tr, he, -⟩
    · exact hold
    · exact absurd he (hpost k queue success)

lemma ChainInv.frame (h : ChainInv s) (hsubmitted : s'.submitted = s.submitted)
    (hreqs : s'.reqs = s.reqs) (hchains : s'.chains = s.chains)
    (hbios : ∀ x w, .mirror x w ∈ s'.dev.bios → .mirror x w ∈ s.dev.bios) : ChainInv s' := by
  constructor
  · rw [hsubmitted, hreqs, hchains]
    exact h.pages
  · intro x w hw
    rw [hsubmitted, hreqs, hchains]
    exact h.mirror x w (hbios x w hw)

lemma ChainInv.route {r : IoRequest} {req : Request} {mem : Nat → Nat → α} (h : ChainInv s)
    (hpages : req.bytes = r.pages)
    (hs : handlePageEvent cfg capacityG s (.route r req mem) = some s') : ChainInv s' := by
  obtain ⟨d, hd, rfl⟩ := Option.map_eq_some_iff.mp hs
  have hold : ∀ q < s.submitted, Function.update s.chains s.submitted req q = s.chains q ∧
      Function.update s.reqs s.submitted r q = s.reqs q := fun q hq =>
    ⟨Function.update_of_ne (Nat.ne_of_lt hq) _ _, Function.update_of_ne (Nat.ne_of_lt hq) _ _⟩
  constructor
  · intro q hq
    dsimp only at hq ⊢
    rcases Nat.lt_succ_iff_lt_or_eq.mp hq with hlt | rfl
    · rw [(hold q hlt).1, (hold q hlt).2]
      exact h.pages q hlt
    · rw [Function.update_self, Function.update_self]
      exact hpages
  · intro x w hw
    obtain ⟨hlt, hsegments⟩ := h.mirror x w (deviceStep_mirror (by rintro _ _ _ ⟨⟩) hd hw)
    dsimp only
    rw [(hold w hlt).1, (hold w hlt).2]
    exact ⟨Nat.lt_succ_of_lt hlt, hsegments⟩

lemma ChainInv.post {k queue : Nat} (h : ChainInv s)
    (hwaiting : ∀ tr ∈ s.dev.waiting, tr.req < s.submitted)
    (hruns : ∀ tr, s.dev.waiting[k]? = some tr → tr.write = true →
      s.dev.tables.sess.rdmaOn = true → PageRuns (s.chains tr.req))
    (hs : handlePageEvent cfg capacityG s (.post k queue) = some s') : ChainInv s' := by
  have hmirror : ∀ {d}, deviceStep cfg s.dev (.post k queue true) = some d →
      ∀ x w, .mirror x w ∈ d.bios →
        w < s.submitted ∧ (s.chains w).nrPhysSegments = (s.reqs w).pages := by
    intro d hd x w hw
    rcases deviceStep_cases hd with rfl | ⟨-, hd⟩
    · exact h.mirror x w hw
    · rcases handleEvent_mirror hd hw with hold | ⟨_, _, _, tr, ⟨⟩, hk, hon, hwrite, rfl⟩
      · exact h.mirror x w hold
      · have hlt := hwaiting tr (List.mem_of_getElem? hk)
        exact ⟨hlt, (hruns tr hk hwrite hon).nrPhysSegments.trans (h.pages _ hlt)⟩
  simp only [handlePageEvent, Option.bind_eq_bind, Option.bind_eq_some_iff] at hs
  obtain ⟨d, hd, hs⟩ := hs
  split at hs
  · cases hs
    exact ⟨h.pages, hmirror hd⟩
  · simp only [Option.bind_eq_some_iff] at hs
    obtain ⟨tr, -, ⟨x, pool⟩, -, bufs, -, hs⟩ := hs
    cases hs
    exact ⟨h.pages, hmirror hd⟩

lemma executeBio_keeps (s : PageStore α) (bio : DiskBio) :
    (executeBio s bio).submitted = s.submitted ∧ (executeBio s bio).reqs = s.reqs ∧
      (executeBio s bio).chains = s.chains := by
  cases bio with
  | mirror x q => exact ⟨rfl, rfl, rfl⟩
  | request q =>
    unfold executeBio
    dsimp only
    split <;> exact ⟨rfl, rfl, rfl⟩

lemma ChainInv.step {e : PageEvent α} (h : ChainInv s)
    (hwaiting : ∀ tr ∈ s.dev.waiting, tr.req < s.submitted)
    (hroute : ∀ r req mem, e = .route r req mem → req.bytes = r.pages)
    (hpost : ∀ k queue tr, e = .post k queue → s.dev.waiting[k]? = some tr → tr.write = true →
      s.dev.tables.sess.rdmaOn = true → PageRuns (s.chains tr.req))
    (hs : handlePageEvent cfg capacityG s e = some s') : ChainInv s' := by
  cases e with
  | route r req mem => exact h.route (hroute r req mem rfl) hs
  | post k queue => exact h.post hwaiting (fun tr => hpost k queue tr rfl) hs
  | transfer k =>
    simp only [handlePageEvent, Option.bind_eq_bind, Option.bind_eq_some_iff] at hs
    obtain ⟨wr, -, hs⟩ := hs
    split at hs
    · cases hs
    · cases hs
      unfold rdmaExecute
      dsimp only
      split <;> exact h.frame rfl rfl rfl fun _ _ hw => hw
  | complete k flushed =>
    simp only [handlePageEvent, Option.bind_eq_bind, Option.bind_eq_some_iff] at hs
    obtain ⟨wr, -, d, hd, hs⟩ := hs
    have hbios : ∀ x w, .mirror x w ∈ d.bios → .mirror x w ∈ s.dev.bios := fun x w hw =>
      deviceStep_mirror (by rintro _ _ _ ⟨⟩) hd hw
    split at hs
    · cases hs
      exact h.frame rfl rfl rfl hbios
    · split at hs
      · cases hs
      · split at hs <;> cases hs <;> exact h.frame rfl rfl rfl hbios
  | diskDone =>
    simp only [handlePageEvent, Option.bind_eq_bind, Option.bind_eq_some_iff,
      Option.some.injEq] at hs
    obtain ⟨bio, -, d, hd, rfl⟩ := hs
    obtain ⟨hsubmitted, hreqs, hchains⟩ := executeBio_keeps s bio
    exact h.frame hsubmitted hreqs hchains fun x w hw =>
      deviceStep_mirror (by rintro _ _ _ ⟨⟩) hd hw
  | connect c =>
    simp only [handlePageEvent] at hs
    split at hs <;> cases hs
    exact h.frame rfl rfl rfl fun _ _ hw => hw
  | bind c msg content =>
    simp only [handlePageEvent] at hs
    split at hs <;> cases hs <;> exact h.frame rfl rfl rfl fun _ _ hw => hw
  | mapped =>
    cases hs
    exact h.frame rfl rfl rfl fun _ _ hw => hw
  | unmap c stop =>
    simp only [handlePageEvent] at hs
    split at hs
    · obtain ⟨d, hd, rfl⟩ := Option.map_eq_some_iff.mp hs
      exact h.frame rfl rfl rfl fun x w hw => deviceStep_mirror (by rintro _ _ _ ⟨⟩) hd hw
    · cases hs
  | remap c =>
    simp only [handlePageEvent] at hs
    split at hs
    · split at hs <;> cases hs
      exact h.frame rfl rfl rfl fun _ _ hw => hw
    · cases hs
  | foreign slab page content =>
    cases hs
    exact h.frame rfl rfl rfl fun _ _ hw => hw
  | drain c | sendDone c | disconnect c | scan c | forget c =>
    obtain ⟨d, hd, rfl⟩ := Option.map_eq_some_iff.mp hs
    exact h.frame rfl rfl rfl fun x w hw => deviceStep_mirror (by rintro _ _ _ ⟨⟩) hd hw

end Invariant

end DisStore.Proofs
