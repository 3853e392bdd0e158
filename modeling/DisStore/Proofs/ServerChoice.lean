import DisStore.Select
import DisStore.Lib.Probe

/-!
# The server that a chunk is bound to

The selection draws distinct servers, the search for the largest answer ends with a largest one
although it exchanges by wrapping arithmetic, and the decision to bind is made by a comparison
with zero only. All of it is inside the tables of the session exactly when `NUM_CB` still is the
number of its servers.
-/

namespace DisStore.Proofs
open DisStore DisStore.Lib

variable {n selectNum : Nat} {s : Session} {reply : Nat → Int}

/-! ### The selection -/

/-- The servers that can be selected. -/
def availableCbs (n : Nat) (s : Session) : List Nat :=
  (List.range n).filter fun i => (s.cbStateList i).available

lemma availCb_eq (n : Nat) (s : Session) : availCb n s = (availableCbs n s).length := by
  have hsplit := List.length_eq_countP_add_countP (fun i => (s.cbStateList i).available)
    (l := List.range n)
  have hnot : (List.range n).countP (fun i => !(s.cbStateList i).available) =
      (List.range n).countP fun i => decide ¬((s.cbStateList i).available = true) := by
    apply List.countP_congr
    intro i _
    simp
  rw [List.length_range] at hsplit
  rw [availCb, hnot, availableCbs, ← List.countP_eq_length_filter]
  omega

lemma drawCbs_eq_drawDistinct (n : Nat) (s : Session) (draws : List Nat) (taken : Nat → Bool) :
    drawCbs n s draws taken = drawDistinct n draws fun i => !cbBusy s taken i := by
  induction draws generalizing taken with
  | nil => rfl
  | cons r draws ih =>
    have htaken : ∀ i, (fun j => !cbBusy s (Function.update taken i true) j) =
        Function.update (fun j => !cbBusy s taken j) i false := by
      intro i
      funext j
      by_cases hj : j = i
      · subst hj
        simp [cbBusy]
      · simp [cbBusy, hj]
    simp only [drawCbs, drawDistinct, probeCb, ih, htaken]

/-- What the selection of a session with `n` servers gives. -/
structure SelectsDistinct (n selectNum : Nat) (s : Session) (sel : List Nat) : Prop where
  nodup : sel.Nodup
  length : sel.length = min selectNum (availableCbs n s).length
  available : ∀ c ∈ sel, c < n ∧ (s.cbStateList c).available = true

lemma cbBusy_none_taken (s : Session) :
    (fun i => !cbBusy s (fun _ => false) i) = fun i => (s.cbStateList i).available := by
  funext i
  simp [cbBusy]

lemma drawCbs_selects (hlt : selectNum < (availableCbs n s).length) (draws : List Nat)
    (hlen : draws.length = selectNum) :
    ∃ sel, drawCbs n s draws (fun _ => false) = some sel ∧ SelectsDistinct n selectNum s sel := by
  have henough : draws.length ≤ Nat.count (fun i => (s.cbStateList i).available = true) n := by
    rw [count_eq_countP fun i => (s.cbStateList i).available, List.countP_eq_length_filter]
    exact hlen.trans_le hlt.le
  obtain ⟨sel, hdraw, hnodup, hsel, hmem⟩ := drawDistinct_spec draws _ henough
  refine ⟨sel, ?_, hnodup, ?_, hmem⟩
  · rw [drawCbs_eq_drawDistinct, cbBusy_none_taken]
    exact hdraw
  · omega

lemma selectCbs_selects (n selectNum : Nat) (s : Session) (draws : Nat → Nat) :
    ∃ sel, selectCbs n n selectNum s draws = some sel ∧ SelectsDistinct n selectNum s sel := by
  unfold selectCbs
  rw [availCb_eq]
  split_ifs with hle
  · refine ⟨_, rfl, List.nodup_range.filter _, ?_, ?_⟩
    · change (availableCbs n s).length = _
      omega
    · intro c hc
      obtain ⟨hlt, hav⟩ := List.mem_filter.mp hc
      exact ⟨List.mem_range.mp hlt, hav⟩
  · exact drawCbs_selects (by omega) _ (by rw [List.length_map, List.length_range])

/-! ### The queries -/

/-- What is known after the servers of a list, entered from place `k` on, have been asked. -/
structure Queried (reply : Nat → Int) (k : Nat) (sel : List Nat) (q q' : ServerQuery) : Prop where
  queried : q'.queried = q.queried ++ sel
  entry : ∀ i c, sel[i]? = some c → q'.freeMem (k + i) = reply c ∧ q'.freeMemSorted (k + i) = c
  before : ∀ i < k, q'.freeMem i = q.freeMem i ∧ q'.freeMemSorted i = q.freeMemSorted i

lemma queryServer_available (reply : Nat → Int) {q : ServerQuery} {c : Nat}
    (hc : (q.sess.cbStateList c).available = true) (i : Nat) :
    (queryServer reply q (c, i)).queried = q.queried ++ [c] ∧
      (queryServer reply q (c, i)).freeMem = Function.update q.freeMem i (reply c) ∧
      (queryServer reply q (c, i)).freeMemSorted = Function.update q.freeMemSorted i c ∧
      ∀ c', c' ≠ c → (queryServer reply q (c, i)).sess.cbStateList c' = q.sess.cbStateList c' := by
  have hne : q.sess.cbStateList c ≠ .fail := by
    intro h
    rw [h] at hc
    exact Bool.false_ne_true hc
  simp only [queryServer, if_neg hne, true_and]
  intro c' hc'
  split
  · exact Function.update_of_ne hc' ..
  · rfl

lemma foldl_queryServer (reply : Nat → Int) (sel : List Nat) (k : Nat) (q : ServerQuery)
    (hnodup : sel.Nodup) (hav : ∀ c ∈ sel, (q.sess.cbStateList c).available = true) :
    Queried reply k sel q ((sel.zipIdx k).foldl (queryServer reply) q) := by
  induction sel generalizing k q with
  | nil => exact ⟨by simp, by simp, fun i _ => ⟨rfl, rfl⟩⟩
  | cons c sel ih =>
    obtain ⟨hc, hnd⟩ := List.nodup_cons.mp hnodup
    obtain ⟨hqueried, hfree, hsorted, hstate⟩ :=
      queryServer_available reply (hav c List.mem_cons_self) k
    have hrest := ih (k + 1) (queryServer reply q (c, k)) hnd (by
      intro c' hc'
      rw [hstate c' fun he => hc (he ▸ hc')]
      exact hav c' (List.mem_cons_of_mem _ hc'))
    rw [List.zipIdx_cons, List.foldl_cons]
    refine ⟨?_, ?_, ?_⟩
    · rw [hrest.queried, hqueried, List.append_assoc, List.singleton_append]
    · intro i c' hi
      cases i with
      | zero =>
        obtain rfl : c = c' := by simpa using hi
        obtain ⟨h1, h2⟩ := hrest.before k (by omega)
        rw [add_zero, h1, h2, hfree, hsorted]
        exact ⟨Function.update_self .., Function.update_self ..⟩
      | succ i =>
        have hentry := hrest.entry i c' (by simpa using hi)
        rwa [show k + 1 + i = k + (i + 1) by omega] at hentry
    · intro i hi
      obtain ⟨h1, h2⟩ := hrest.before i (by omega)
      rw [h1, h2, hfree, hsorted]
      exact ⟨Function.update_of_ne (by omega) .., Function.update_of_ne (by omega) ..⟩

/-! ### The search for the largest answer -/

/-- A value of type `int`. -/
def IsInt (x : Int) : Prop := -2 ^ 31 ≤ x ∧ x < 2 ^ 31

lemma toInt32_of_isInt {x : Int} (h : IsInt x) : toInt32 x = x := by
  unfold IsInt at h
  rw [toInt32_eq_bmod]
  apply Int.bmod_eq_of_le <;> omega

lemma toInt32_add_sub {a b : Int} (ha : IsInt a) : toInt32 (toInt32 (a + b) - b) = a := by
  rw [toInt32_eq_bmod, toInt32_eq_bmod, Int.bmod_sub_bmod, add_sub_cancel_right,
    ← toInt32_eq_bmod]
  exact toInt32_of_isInt ha

/-- The exchange is one, whatever wraps around in it. -/
lemma exchangeFirst_eq {a : Nat → Int} {j : Nat} (hj : j ≠ 0) (h0 : IsInt (a 0))
    (hjj : IsInt (a j)) :
    exchangeFirst a j = Function.update (Function.update a j (a 0)) 0 (a j) := by
  have hfirst : toInt32 (toInt32 (a 0 + a j) - a j) = a 0 := toInt32_add_sub h0
  have hsecond : toInt32 (toInt32 (a 0 + a j) - a 0) = a j := by
    rw [add_comm]
    exact toInt32_add_sub hjj
  unfold exchangeFirst
  simp only [Function.update_self, Function.update_of_ne hj, Function.update_of_ne hj.symm, hfirst,
    hsecond]
  funext i
  by_cases hi0 : i = 0
  · subst hi0
    rw [Function.update_self, Function.update_self]
  · by_cases hij : i = j
    · subst hij
      simp [hi0]
    · simp [hi0, hij]

/-- After place `j - 1` the first entries are the largest answer so far and its server. -/
structure BestSoFar (reply : Nat → Int) (sel : List Nat) (j : Nat)
    (m : (Nat → Int) × (Nat → Int)) : Prop where
  best : ∃ c ∈ sel, m.1 0 = reply c ∧ m.2 0 = c
  rest : ∀ i c, j ≤ i → sel[i]? = some c → m.1 i = reply c ∧ m.2 i = c
  bound : ∀ i c, i < j → sel[i]? = some c → reply c ≤ m.1 0

variable {sel : List Nat}

lemma BestSoFar.step {j : Nat} {m : (Nat → Int) × (Nat → Int)} (h : BestSoFar reply sel j m)
    (hj : 0 < j) (hlt : j < sel.length) (hreply : ∀ c, IsInt (reply c))
    (hsel : ∀ c ∈ sel, IsInt c) : BestSoFar reply sel (j + 1) (moreFree m j) := by
  obtain ⟨c₀, hc₀, hfree₀, hsorted₀⟩ := h.best
  have hget : sel[j]? = some sel[j] := List.getElem?_eq_getElem hlt
  obtain ⟨hfreej, hsortedj⟩ := h.rest j _ le_rfl hget
  unfold moreFree
  split_ifs with hmore
  · have hne : j ≠ 0 := by omega
    have h1 := exchangeFirst_eq (a := m.1) hne (hfree₀ ▸ hreply c₀) (hfreej ▸ hreply _)
    have h2 := exchangeFirst_eq (a := m.2) hne (hsorted₀ ▸ hsel c₀ hc₀)
      (hsortedj ▸ hsel _ (List.getElem_mem hlt))
    rw [h1, h2]
    refine ⟨⟨sel[j], List.getElem_mem hlt, ?_, ?_⟩, ?_, ?_⟩
    · dsimp only
      rw [Function.update_self, hfreej]
    · dsimp only
      rw [Function.update_self, hsortedj]
    · intro i c hi hc
      simp only [Function.update_of_ne (show i ≠ 0 by omega), Function.update_of_ne
        (show i ≠ j by omega)]
      exact h.rest i c (by omega) hc
    · intro i c hi hc
      dsimp only
      rw [Function.update_self]
      by_cases hij : i = j
      · rw [hij, hget] at hc
        rw [← Option.some.inj hc, hfreej]
      · exact (h.bound i c (by omega) hc).trans hmore.le
  · refine ⟨h.best, fun i c hi => h.rest i c (by omega), ?_⟩
    intro i c hi hc
    by_cases hij : i = j
    · rw [hij, hget] at hc
      rw [← Option.some.inj hc, ← hfreej]
      exact not_lt.mp hmore
    · exact h.bound i c (by omega) hc

lemma BestSoFar.loop {m : (Nat → Int) × (Nat → Int)} (h : BestSoFar reply sel 1 m)
    (hreply : ∀ c, IsInt (reply c)) (hsel : ∀ c ∈ sel, IsInt c) (k : Nat) (hk : k + 1 ≤ sel.length) :
    BestSoFar reply sel (k + 1) ((List.range' 1 k).foldl moreFree m) := by
  induction k with
  | zero => exact h
  | succ k ih =>
    rw [List.range'_1_concat, List.foldl_append, List.foldl_cons, List.foldl_nil,
      show 1 + k = k + 1 by omega]
    exact (ih (by omega)).step (by omega) (by omega) hreply hsel

/-! ### The call -/

/-- What the call should do: ask distinct available servers, as many as wanted or as there are,
and bind to one with the largest answer if that is positive. -/
structure ChoosesBest (n selectNum : Nat) (s : Session) (reply : Nat → Int) (chunk : Int)
    (r : MapChoice) : Prop where
  asked : SelectsDistinct n selectNum s r.queried
  binds : ∀ x, r.bound = some x → r.result = chunk ∧ ∃ c ∈ r.queried, x = c ∧ 0 < reply c ∧
    ∀ c' ∈ r.queried, reply c' ≤ reply c
  refuses : r.bound = none → r.result = -1 ∧ ∀ c ∈ r.queried, reply c ≤ 0

lemma singleChunkMap_eq (n selectNum : Nat) (s : Session) (draws : Nat → Nat)
    (hreply : ∀ c, IsInt (reply c)) (hn : n < 2 ^ 31) (chunk : Int) :
    ∃ sel r, selectCbs n n selectNum s draws = some sel ∧ SelectsDistinct n selectNum s sel ∧
      singleChunkMap n n selectNum s draws reply chunk = some r ∧ r.queried = sel ∧
      (sel = [] ∧ r.bound = none ∧ r.result = -1 ∨
        ∃ c ∈ sel, (∀ c' ∈ sel, reply c' ≤ reply c) ∧
          (reply c = 0 ∧ r.bound = none ∧ r.result = -1 ∨
            reply c ≠ 0 ∧ r.bound = some (c : Int) ∧ r.result = chunk)) := by
  obtain ⟨sel, hselect, hsel⟩ := selectCbs_selects n selectNum s draws
  by_cases hnil : sel = []
  · refine ⟨sel, ⟨s, [], none, -1⟩, hselect, hsel, ?_, hnil.symm, .inl ⟨hnil, rfl, rfl⟩⟩
    simp [singleChunkMap, hselect, hnil]
  · have hpos : 0 < sel.length := List.length_pos_iff.mpr hnil
    have hint : ∀ c ∈ sel, IsInt c := by
      intro c hc
      have hlt := (hsel.available c hc).1
      exact ⟨by omega, by omega⟩
    have hquery := foldl_queryServer reply sel 0 ⟨s, [], fun _ => -1, fun _ => n⟩
      hsel.nodup fun c hc => (hsel.available c hc).2
    set q := sel.zipIdx.foldl (queryServer reply) ⟨s, [], fun _ => -1, fun _ => n⟩ with hq
    have hentry : ∀ i c, sel[i]? = some c → q.freeMem i = reply c ∧ q.freeMemSorted i = c := by
      intro i c hc
      have he := hquery.entry i c hc
      rwa [zero_add] at he
    have hget : sel[0]? = some sel[0] := List.getElem?_eq_getElem hpos
    have hstart : BestSoFar reply sel 1 (q.freeMem, q.freeMemSorted) := by
      refine ⟨⟨sel[0], List.getElem_mem hpos, hentry 0 _ hget⟩, fun i c _ => hentry i c, ?_⟩
      intro i c hi hc
      obtain rfl : i = 0 := by omega
      exact (hentry 0 c hc).1.ge
    have hend := hstart.loop hreply hint (sel.length - 1) (by omega)
    rw [show sel.length - 1 + 1 = sel.length by omega] at hend
    set m := (List.range' 1 (sel.length - 1)).foldl moreFree (q.freeMem, q.freeMemSorted) with hm
    obtain ⟨c, hc, hfree, hsorted⟩ := hend.best
    have hmax : ∀ c' ∈ sel, reply c' ≤ reply c := by
      intro c' hc'
      obtain ⟨i, hi, he⟩ := List.mem_iff_getElem.mp hc'
      rw [← hfree]
      exact hend.bound i c' hi (he ▸ List.getElem?_eq_getElem hi)
    have hqueried : q.queried = sel := by
      rw [hquery.queried, List.nil_append]
    by_cases hzero : reply c = 0
    · refine ⟨sel, ⟨q.sess, q.queried, none, -1⟩, hselect, hsel, ?_, hqueried,
        .inr ⟨c, hc, hmax, .inl ⟨hzero, rfl, rfl⟩⟩⟩
      have hz : m.1 0 = 0 := hfree.trans hzero
      simp [singleChunkMap, hselect, hnil, ← hq, ← hm, hz]
    · have hz : m.1 0 ≠ 0 := fun h => hzero (hfree ▸ h)
      obtain ⟨r, hr, hask, hbound, hresult⟩ : ∃ r,
          singleChunkMap n n selectNum s draws reply chunk = some r ∧ r.queried = q.queried ∧
          r.bound = some (m.2 0) ∧ r.result = chunk := by
        simp only [singleChunkMap, hselect, Option.bind_eq_bind, Option.bind_some, if_neg hnil,
          ← hq, ← hm, if_neg hz]
        exact ⟨_, rfl, rfl, rfl, rfl⟩
      exact ⟨sel, r, hselect, hsel, hr, hask.trans hqueried,
        .inr ⟨c, hc, hmax, .inr ⟨hzero, hbound.trans (congrArg some hsorted), hresult⟩⟩⟩

/-- With given draws: no server is available, or one of the selected ones has an answer that is
not negative. -/
lemma choosesBest_iff_selected (n selectNum : Nat) (s : Session) (draws : Nat → Nat)
    (chunk : Int) (hreply : ∀ c, IsInt (reply c)) (hn : n < 2 ^ 31) :
    (∃ r, singleChunkMap n n selectNum s draws reply chunk = some r ∧
      ChoosesBest n selectNum s reply chunk r) ↔
      ∃ sel, selectCbs n n selectNum s draws = some sel ∧
        (sel = [] ∨ ∃ c ∈ sel, 0 ≤ reply c) := by
  obtain ⟨sel, r, hselect, hsel, hr, hqueried, hcase⟩ :=
    singleChunkMap_eq n selectNum s draws hreply hn chunk
  rw [hr, hselect]
  simp only [Option.some.injEq, exists_eq_left']
  constructor
  · intro hbest
    rcases hcase with ⟨hnil, -⟩ | ⟨c, hc, hmax, ⟨hzero, -⟩ | ⟨-, hbound, -⟩⟩
    · exact .inl hnil
    · exact .inr ⟨c, hc, hzero.ge⟩
    · obtain ⟨-, c', hc', -, hpos, -⟩ := hbest.binds c hbound
      exact .inr ⟨c', hqueried ▸ hc', hpos.le⟩
  · intro hgood
    refine ⟨hqueried ▸ hsel, ?_, ?_⟩
    · intro x hx
      rcases hcase with ⟨-, hnone, -⟩ | ⟨c, hc, hmax, ⟨-, hnone, -⟩ | ⟨hne, hbound, hresult⟩⟩
      · exact (Option.some_ne_none x (hx.symm.trans hnone)).elim
      · exact (Option.some_ne_none x (hx.symm.trans hnone)).elim
      · have hnonneg : 0 ≤ reply c := by
          rcases hgood with hnil | ⟨c', hc', hpos⟩
          · rw [hnil] at hc
            exact (List.not_mem_nil hc).elim
          · exact hpos.trans (hmax c' hc')
        refine ⟨hresult, c, hqueried ▸ hc, Option.some.inj (hx.symm.trans hbound), ?_, ?_⟩
        · omega
        · exact hqueried ▸ hmax
    · intro hnone
      rcases hcase with ⟨hnil, -, hresult⟩ | ⟨c, hc, hmax, ⟨hzero, -, hresult⟩ | ⟨-, hbound, -⟩⟩
      · refine ⟨hresult, ?_⟩
        rw [hqueried, hnil]
        exact fun c hc => (List.not_mem_nil hc).elim
      · refine ⟨hresult, fun c' hc' => ?_⟩
        exact (hmax c' (hqueried ▸ hc')).trans hzero.le
      · exact (Option.some_ne_none _ (hbound.symm.trans hnone)).elim

/-- The available servers whose answer is negative. -/
def overbooked (n : Nat) (s : Session) (reply : Nat → Int) : List Nat :=
  (availableCbs n s).filter fun c => decide (reply c < 0)

lemma selectCbs_listed (hlt : selectNum < (availableCbs n s).length) {sel : List Nat}
    (hlen : sel.length = selectNum) (hnodup : sel.Nodup) (hsub : sel ⊆ availableCbs n s) :
    selectCbs n n selectNum s (fun i => sel.getD i 0) = some sel := by
  have hdraws : (List.range selectNum).map (fun i => sel.getD i 0) = sel := by
    apply List.ext_getElem
    · rw [List.length_map, List.length_range, hlen]
    · intro i h1 h2
      simp [h2]
  rw [selectCbs, availCb_eq, if_neg (by omega), hdraws, drawCbs_eq_drawDistinct, cbBusy_none_taken]
  apply drawDistinct_self sel _ hnodup
  intro c hc
  obtain ⟨hmem, hav⟩ := List.mem_filter.mp (hsub hc)
  exact ⟨List.mem_range.mp hmem, hav⟩

/-- Whatever is drawn, the call asks distinct available servers and binds to one with a largest
positive answer, exactly when no server is available or there are not enough servers with a
negative answer to be all that are asked. -/
theorem server_choice_best_iff (n selectNum : Nat) (s : Session) (reply : Nat → Int) (chunk : Int)
    (hreply : ∀ c, IsInt (reply c)) (hn : n < 2 ^ 31) (hselect : 1 ≤ selectNum) :
    (∀ draws, ∃ r, singleChunkMap n n selectNum s draws reply chunk = some r ∧
      ChoosesBest n selectNum s reply chunk r) ↔
      availableCbs n s = [] ∨
        (overbooked n s reply).length < min selectNum (availableCbs n s).length := by
  simp only [choosesBest_iff_selected n selectNum s _ chunk hreply hn]
  constructor
  · intro h
    by_contra! hno
    obtain ⟨hnonempty, hmany⟩ := hno
    -- as many servers with a negative answer are drawn as are asked
    have hpos : 0 < (availableCbs n s).length := List.length_pos_iff.mpr hnonempty
    have hall : ∃ draws sel, selectCbs n n selectNum s draws = some sel ∧ 0 < sel.length ∧
        sel ⊆ overbooked n s reply := by
      by_cases hle : (availableCbs n s).length ≤ selectNum
      · have hsub : (overbooked n s reply).Sublist (availableCbs n s) := List.filter_sublist
        have heq := hsub.eq_of_length_le (by omega)
        refine ⟨fun _ => 0, availableCbs n s, ?_, hpos, heq ▸ List.Subset.refl _⟩
        rw [selectCbs, availCb_eq, if_pos hle]
        rfl
      · have hsub : (overbooked n s reply).take selectNum ⊆ overbooked n s reply :=
          List.take_subset _ _
        refine ⟨_, (overbooked n s reply).take selectNum, selectCbs_listed (by omega) ?_ ?_ ?_, ?_,
          hsub⟩
        · rw [List.length_take]
          omega
        · exact (List.take_sublist _ _).nodup ((List.nodup_range.filter _).filter _)
        · exact fun c hc => (List.mem_filter.mp (hsub hc)).1
        · rw [List.length_take]
          omega
    obtain ⟨draws, sel, hsel, hlen, hsub⟩ := hall
    obtain ⟨sel', hsel', hgood⟩ := h draws
    obtain rfl : sel = sel' := Option.some.inj (hsel.symm.trans hsel')
    rcases hgood with rfl | ⟨c, hc, hge⟩
    · exact absurd hlen (lt_irrefl 0)
    · have hneg := of_decide_eq_true (List.mem_filter.mp (hsub hc)).2
      omega
  · intro h draws
    obtain ⟨sel, hsel, hdistinct⟩ := selectCbs_selects n selectNum s draws
    refine ⟨sel, hsel, ?_⟩
    rcases h with hnone | hfew
    · left
      apply List.eq_nil_of_length_eq_zero
      rw [hdistinct.length, hnone, List.length_nil, Nat.min_zero]
    · right
      by_contra! hneg
      have hsub : sel ⊆ overbooked n s reply := by
        intro c hc
        obtain ⟨hlt, hav⟩ := hdistinct.available c hc
        apply List.mem_filter.mpr
        exact ⟨List.mem_filter.mpr ⟨List.mem_range.mpr hlt, hav⟩, decide_eq_true (hneg c hc)⟩
      have hle := (List.subperm_of_subset hdistinct.nodup hsub).length_le
      rw [hdistinct.length] at hle
      omega

/-- Five servers, of which server 2 has failed and server 3 has no connection yet. -/
def fiveServers : Session :=
  { sessionCreate 1 with
    cbStateList := fun c =>
      if c = 1 then .mapped else if c = 2 then .fail else if c = 3 then .idle else .connected }

/-- Server 1 has counted binds that it could not satisfy. -/
def fiveReplies (c : Nat) : Int := if c = 1 then -1 else if c = 3 then 7 else 5

/-- Both draws hit the failed server, and the probing goes on to servers 3 and 4. -/
theorem server_choice_best_two_of_five :
    ∃ r, singleChunkMap 5 5 2 fiveServers (fun _ => 2) fiveReplies 0 = some r ∧
      r.queried = [3, 4] ∧ r.bound = some 3 ∧ ChoosesBest 5 2 fiveServers fiveReplies 0 r := by
  have hint : ∀ c, IsInt (fiveReplies c) := by
    intro c
    unfold fiveReplies IsInt
    split_ifs <;> norm_num
  have hbest := (server_choice_best_iff 5 2 fiveServers fiveReplies 0 hint (by norm_num)
    (by norm_num)).mpr (.inr (by decide))
  have hmap : (singleChunkMap 5 5 2 fiveServers (fun _ => 2) fiveReplies 0).map
      (fun r => (r.queried, r.bound)) = some ([3, 4], some 3) := by
    decide
  obtain ⟨r, hr, hchooses⟩ := hbest fun _ => 2
  rw [hr, Option.map_some, Option.some.injEq, Prod.mk.injEq] at hmap
  exact ⟨r, hr, hmap.1, hmap.2, hchooses⟩

/-- One server, which has a connection. -/
def oneServer : Session :=
  { sessionCreate 1 with cbStateList := fun _ => .connected }

/-- A server answers with -1, as a daemon does that has counted a bind it could not satisfy; the
call sends it BIND_SINGLE. -/
theorem server_choice_binds_negative :
    (singleChunkMap 1 1 1 oneServer (fun _ => 0) (fun _ => -1) 0).map
      (fun r => (r.queried, r.bound, r.result)) = some ([0], some 0, 0) := by
  decide

/-! ### Several sessions -/

/-- A call on a session uses indices inside the tables of this session only, counts each of its
servers and can select each that is available. -/
structure TablesRespected (numCb selectNum : Nat) (t : SessionTables) (s : Session)
    (draws : Nat → Nat) (reply : Nat → Int) (chunk : Int) : Prop where
  states : ∀ i ∈ stateIndices numCb t.cbNum selectNum s draws, i < t.cbNum
  servers : ∀ x ∈ cbIndices numCb t.cbNum selectNum s draws reply chunk,
    0 ≤ x ∧ x < t.cbNum ∧ x < t.ctxPools
  counted : ∀ i < t.cbNum, i ∈ List.range numCb
  eligible : ∀ i < t.cbNum, (s.cbStateList i).available = true →
    ∃ draws sel, selectCbs numCb t.cbNum selectNum s draws = some sel ∧ i ∈ sel

lemma probeVisits_lt (n : Nat) (s : Session) (taken : Nat → Bool) (fuel r : Nat) (hr : r < n) :
    ∀ i ∈ probeVisits n s taken fuel r, i < n := by
  induction fuel generalizing r with
  | zero => exact fun i hi => (List.not_mem_nil hi).elim
  | succ fuel ih =>
    intro i hi
    rcases List.mem_cons.mp hi with rfl | hi
    · exact hr
    · split at hi
      · exact ih ((r + 1) % n) (Nat.mod_lt _ (by omega)) i hi
      · exact (List.not_mem_nil hi).elim

lemma drawVisits_lt (n : Nat) (s : Session) (hn : 0 < n) (draws : List Nat) (taken : Nat → Bool) :
    ∀ i ∈ drawVisits n s draws taken, i < n := by
  induction draws generalizing taken with
  | nil => exact fun i hi => (List.not_mem_nil hi).elim
  | cons r draws ih =>
    intro i hi
    rcases List.mem_append.mp hi with hi | hi
    · exact probeVisits_lt n s taken n (r % n) (Nat.mod_lt r hn) i hi
    · split at hi
      · exact ih _ i hi
      · exact (List.not_mem_nil hi).elim

lemma stateIndices_lt (n selectNum : Nat) (s : Session) (draws : Nat → Nat) :
    ∀ i ∈ stateIndices n n selectNum s draws, i < n := by
  obtain ⟨sel, hsel, hdistinct⟩ := selectCbs_selects n selectNum s draws
  intro i hi
  simp only [stateIndices, hsel, Option.getD_some, List.mem_append] at hi
  rcases hi with (hi | hi) | hi
  · exact List.mem_range.mp hi
  · split at hi
    · exact List.mem_range.mp hi
    · rename_i hlt
      rw [availCb_eq, availableCbs] at hlt
      have hpos : 0 < n := by
        have hle := List.length_filter_le (fun i => (s.cbStateList i).available) (List.range n)
        rw [List.length_range] at hle
        omega
      exact drawVisits_lt n s hpos _ _ i hi
  · exact (hdistinct.available i hi).1

lemma cbIndices_lt (n selectNum : Nat) (s : Session) (draws : Nat → Nat)
    (hreply : ∀ c, IsInt (reply c)) (hn : n < 2 ^ 31) (chunk : Int) :
    ∀ x ∈ cbIndices n n selectNum s draws reply chunk, 0 ≤ x ∧ x < n := by
  obtain ⟨sel, r, -, hsel, hr, hqueried, hcase⟩ :=
    singleChunkMap_eq n selectNum s draws hreply hn chunk
  have hlt : ∀ c ∈ sel, 0 ≤ (c : Int) ∧ (c : Int) < n := by
    intro c hc
    have := (hsel.available c hc).1
    omega
  intro x hx
  simp only [cbIndices, hr, hqueried, List.mem_append] at hx
  rcases hx with hx | hx
  · obtain ⟨c, hc, rfl⟩ := List.mem_map.mp hx
    exact hlt c hc
  · rcases hcase with ⟨-, hnone, -⟩ | ⟨c, hc, -, ⟨-, hnone, -⟩ | ⟨-, hbound, -⟩⟩
    · rw [hnone] at hx
      exact (List.not_mem_nil hx).elim
    · rw [hnone] at hx
      exact (List.not_mem_nil hx).elim
    · rw [hbound] at hx
      rw [List.mem_singleton.mp hx]
      exact hlt c hc

lemma selectCbs_eligible {i : Nat} (hi : i < n) (hav : (s.cbStateList i).available = true)
    (hselect : 1 ≤ selectNum) :
    ∃ draws sel, selectCbs n n selectNum s draws = some sel ∧ i ∈ sel := by
  have hmem : i ∈ availableCbs n s := List.mem_filter.mpr ⟨List.mem_range.mpr hi, hav⟩
  by_cases hle : (availableCbs n s).length ≤ selectNum
  · refine ⟨fun _ => 0, availableCbs n s, ?_, hmem⟩
    rw [selectCbs, availCb_eq, if_pos hle]
    rfl
  · -- the server itself and enough of the others
    have hnodup : (availableCbs n s).Nodup := List.nodup_range.filter _
    set sel := i :: ((availableCbs n s).erase i).take (selectNum - 1) with hsel
    refine ⟨_, sel, selectCbs_listed (by omega) ?_ ?_ ?_, List.mem_cons_self⟩
    · rw [hsel, List.length_cons, List.length_take, List.length_erase_of_mem hmem]
      omega
    · rw [hsel, List.nodup_cons]
      refine ⟨fun h => ?_, (List.take_sublist _ _).nodup (hnodup.erase i)⟩
      exact hnodup.not_mem_erase (List.mem_of_mem_take h)
    · intro c hc
      rcases List.mem_cons.mp hc with rfl | hc
      · exact hmem
      · exact List.mem_of_mem_erase (List.mem_of_mem_take hc)

lemma tablesRespected_iff (numCb selectNum cbNum : Nat) (s : Session) (draws : Nat → Nat)
    (hreply : ∀ c, IsInt (reply c)) (hn : cbNum < 2 ^ 31) (hselect : 1 ≤ selectNum) (chunk : Int) :
    TablesRespected numCb selectNum ⟨cbNum, cbNum⟩ s draws reply chunk ↔ numCb = cbNum := by
  constructor
  · intro h
    by_contra hne
    rcases Nat.lt_or_gt_of_ne hne with hlt | hgt
    · have hcount := List.mem_range.mp (h.counted numCb hlt)
      omega
    · have hmem : cbNum ∈ stateIndices numCb cbNum selectNum s draws := by
        apply List.mem_append_left
        apply List.mem_append_left
        exact List.mem_range.mpr hgt
      have hstate := h.states cbNum hmem
      exact lt_irrefl cbNum hstate
  · rintro rfl
    refine ⟨stateIndices_lt numCb selectNum s draws, ?_, ?_, ?_⟩
    · intro x hx
      obtain ⟨h0, hlt⟩ := cbIndices_lt numCb selectNum s draws hreply hn chunk x hx
      exact ⟨h0, hlt, hlt⟩
    · exact fun i hi => List.mem_range.mpr hi
    · exact fun i hi hav => selectCbs_eligible hi hav hselect

/-- Every session that has been created has as many pools as servers, and NUM_CB is the number
of servers of the last one. -/
lemma foldl_createSession (counts : List Nat) :
    counts.foldl createSession driverInit =
      ⟨counts.getLast?.getD 0, counts.map fun p => ⟨p, p⟩⟩ := by
  induction counts using List.reverseRecOn with
  | nil => rfl
  | append_singleton counts p ih =>
    rw [List.foldl_append, ih]
    simp [createSession]

/-- After any sequence of creations, a call on one of the sessions stays inside the tables of
that session and gives all its servers a chance, exactly when the session created last has as
many servers. -/
theorem session_tables_respected_iff (counts : List Nat) (k selectNum : Nat) (t : SessionTables)
    (s : Session) (draws : Nat → Nat) (reply : Nat → Int) (chunk : Int)
    (ht : (counts.foldl createSession driverInit).sessions[k]? = some t)
    (hreply : ∀ c, IsInt (reply c)) (hn : t.cbNum < 2 ^ 31) (hselect : 1 ≤ selectNum) :
    TablesRespected (counts.foldl createSession driverInit).numCb selectNum t s draws reply chunk ↔
      counts.getLast? = some t.cbNum := by
  rw [foldl_createSession] at ht ⊢
  rw [List.getElem?_map] at ht
  obtain ⟨q, hq, rfl⟩ := Option.map_eq_some_iff.mp ht
  rw [tablesRespected_iff _ selectNum q s draws hreply hn hselect chunk]
  have hne : counts ≠ [] := by
    rintro rfl
    simp at hq
  rw [List.getLast?_eq_some_getLast hne, Option.getD_some, Option.some.injEq]

/-- Two sessions with one server each. -/
theorem session_tables_respected_two_sessions :
    TablesRespected ([1, 1].foldl createSession driverInit).numCb 1 ⟨1, 1⟩ oneServer (fun _ => 0)
      (fun _ => 3) 0 :=
  (session_tables_respected_iff [1, 1] 0 1 ⟨1, 1⟩ oneServer (fun _ => 0) (fun _ => 3) 0 rfl
    (fun _ => ⟨by norm_num, by norm_num⟩) (by norm_num) le_rfl).mpr rfl

/-- A session with one server is created and then one with two: a call on the first one reads
entry 1 of its table of one entry. -/
theorem session_tables_overrun :
    ([1, 2].foldl createSession driverInit).sessions[0]? = some ⟨1, 1⟩ ∧
      1 ∈ stateIndices ([1, 2].foldl createSession driverInit).numCb 1 1 oneServer fun _ => 0 := by
  decide

end DisStore.Proofs
