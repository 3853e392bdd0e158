import DisStore.Portal
import Mathlib.Data.List.TakeWhile
import Mathlib.Tactic

/-!
# What the portal parser does with a string

The string is taken apart at its commas: the first field is the count, the others are the
portals. The parser keeps to the fields it scans, and stores what is written there, iff there
are as many portals as the count says and each of those has a short address, a colon and a
port number.
-/

namespace DisStore
open DisStore.Lib

def countField (portal : List Char) : List Char := ((portal.drop 7).splitOn ',').headD []

def portalFields (portal : List Char) : List (List Char) := ((portal.drop 7).splitOn ',').tail

/-- The count that is written in the string; 0 if there is none. -/
def countWritten (portal : List Char) : Int := (numberWritten (countField portal)).getD 0

def portalAddr (field : List Char) : List Char := field.takeWhile (· != ':')

/-- The text after the colon. -/
def portalText (field : List Char) : List Char := field.drop ((portalAddr field).length + 1)

/-- An iteration for a field that looks at no character after the terminator of the field and
stores an address that fits and the port that is written. -/
structure SafeScan (field : List Char) (scan : PortalScan) : Prop where
  token : ∃ rest, scan.singlePortal = field ++ '\x00' :: rest
  colon : scan.colon ≤ field.length
  numberEnd : scan.numberEnd ≤ field.length
  addr : scan.portal.addr.length ≤ 15
  port : numberWritten (portalText field) = some (scan.portal.port.toNat : Int)

structure WellFormedField (field : List Char) : Prop where
  colon : ':' ∈ field
  addr : (portalAddr field).length ≤ 15
  port : ∃ n, numberWritten (portalText field) = some n ∧ 0 ≤ n ∧ n < 2 ^ 16

end DisStore

namespace DisStore.Proofs
open DisStore DisStore.Lib

variable {portal field rest : List Char} {fields : List (List Char)} {scan : PortalScan}

lemma colon_not_mem_portalAddr (field : List Char) : ':' ∉ portalAddr field := by
  intro h
  have := List.mem_takeWhile_imp h
  simp at this

lemma portalField_split (h : ':' ∈ field) :
    field = portalAddr field ++ ':' :: portalText field := by
  induction field with
  | nil => cases h
  | cons c field ih =>
    by_cases hc : c = ':'
    · subst hc
      rfl
    · have haddr : portalAddr (c :: field) = c :: portalAddr field := by
        rw [portalAddr, List.takeWhile_cons, if_pos (by simpa using hc)]
        rfl
      have htail : ':' ∈ field := (List.mem_cons.mp h).resolve_left (Ne.symm hc)
      rw [portalText, haddr, List.cons_append, List.length_cons, List.drop_succ_cons]
      exact congrArg (c :: ·) (ih htail)

lemma findIdx?_colon (h : ':' ∈ field) (rest : List Char) :
    (field ++ '\x00' :: rest).findIdx? (· == ':') = some (portalAddr field).length := by
  have hnone : (portalAddr field).findIdx? (· == ':') = none := by
    rw [List.findIdx?_eq_none_iff]
    intro c hc
    have hne : c ≠ ':' := fun heq => colon_not_mem_portalAddr field (heq ▸ hc)
    simpa using hne
  nth_rewrite 1 [portalField_split h]
  rw [List.append_assoc, List.cons_append, List.findIdx?_append, hnone, List.findIdx?_cons]
  simp

lemma portalField_length (h : ':' ∈ field) :
    field.length = (portalAddr field).length + 1 + (portalText field).length := by
  have hlength := congrArg List.length (portalField_split h)
  rw [List.length_append, List.length_cons] at hlength
  omega

lemma scanPortal_colon (hplain : ∀ c ∈ field, isPlain c) (h : ':' ∈ field) (rest : List Char) :
    ∃ stop, stop ≤ (portalText field).length ∧
      scanPortal (field ++ '\x00' :: rest) = some
        { singlePortal := field ++ '\x00' :: rest
          colon := (portalAddr field).length
          numberEnd := (portalAddr field).length + 1 + stop
          portal :=
            { port := UInt16.ofInt (((numberWritten (portalText field)).map toInt32).getD 0)
              addr := portalAddr field } } := by
  have hlen : (portalAddr field).length + 1 ≤ field.length := by
    rw [portalField_length h]
    omega
  have hmem : ∀ c ∈ portalText field, isPlain c := by
    intro c hc
    exact hplain c (List.mem_of_mem_drop hc)
  obtain ⟨stop, hstop, hconv⟩ := sscanfInt_text (portalText field) rest hmem
  have hdrop : (field ++ '\x00' :: rest).drop ((portalAddr field).length + 1) =
      portalText field ++ '\x00' :: rest := by
    rw [List.drop_append_of_le_length hlen]
    rfl
  have htake : (field ++ '\x00' :: rest).take (portalAddr field).length = portalAddr field := by
    have haddr := List.prefix_iff_eq_take.mp (List.takeWhile_prefix (· != ':') (l := field))
    rw [List.take_append_of_le_length (by omega)]
    exact haddr.symm
  refine ⟨stop, hstop, ?_⟩
  rw [scanPortal, findIdx?_colon h]
  simp only [Option.bind_eq_bind, Option.bind_some, hdrop, hconv, htake]

lemma uint16_of_small {n : Int} (h0 : 0 ≤ n) (h : n < 2 ^ 16) :
    ((UInt16.ofInt (toInt32 n)).toNat : Int) = n := by
  rw [toInt32_of_small h0 (by omega), UInt16.ofInt, UInt16.toNat_ofNat']
  omega

lemma scanPortal_wellFormed (hplain : ∀ c ∈ field, isPlain c) (h : WellFormedField field)
    (rest : List Char) :
    ∃ scan, scanPortal (field ++ '\x00' :: rest) = some scan ∧ SafeScan field scan ∧
      scan.portal.addr = portalAddr field := by
  obtain ⟨stop, hstop, hscan⟩ := scanPortal_colon hplain h.colon rest
  obtain ⟨n, hn, h0, hlt⟩ := h.port
  have hlength := portalField_length h.colon
  refine ⟨_, hscan, ⟨⟨rest, rfl⟩, ?_, ?_, h.addr, ?_⟩, rfl⟩
  · dsimp only
    omega
  · dsimp only
    omega
  · rw [hn, Option.map_some, Option.getD_some, uint16_of_small h0 hlt]

lemma portalLoop_wellFormed (n : Nat) {ptr : Option (List Char)}
    (hptr : PointsTo ',' ptr fields) (hn : n ≤ fields.length)
    (hfields : ∀ field ∈ fields.take n, WellFormedField field) :
    ∃ scans, portalLoop n ptr = some scans ∧
      List.Forall₂ (fun field scan => SafeScan field scan ∧ scan.portal.addr = portalAddr field)
        (fields.take n) scans := by
  induction n generalizing ptr fields with
  | zero => exact ⟨[], rfl, .nil⟩
  | succ n ih =>
    cases ptr with
    | none =>
      obtain ⟨-, rfl⟩ | ⟨text, rest, hsome, -⟩ := hptr
      · cases hn
      · cases hsome
    | some text =>
      obtain ⟨field, fields, after, ptr', rfl, hplain, hstrsep, hptr'⟩ :=
        hptr.strsep (by decide)
      rw [List.take_succ_cons] at hfields ⊢
      obtain ⟨scan, hscan, hsafe⟩ :=
        scanPortal_wellFormed hplain (hfields field List.mem_cons_self) after
      obtain ⟨scans, hloop, hall⟩ := ih hptr' (Nat.le_of_succ_le_succ hn)
        (fun field' hmem => hfields field' (List.mem_cons_of_mem _ hmem))
      refine ⟨scan :: scans, ?_, .cons hsafe hall⟩
      simp only [portalLoop, Option.bind_eq_bind, Option.bind_some, hstrsep, hscan, hloop]

lemma portalParser_text (hplain : ∀ c ∈ portal, isPlain c) (hseven : 7 ≤ portal.length)
    (rest : List Char) :
    ∃ ptr, PointsTo ',' ptr (portalFields portal) ∧
      portalParser (portal ++ '\x00' :: rest) =
        (portalLoop (toInt32 (countWritten portal)).toNat ptr).map fun scans =>
          { cbNum := toInt32 (countWritten portal), scans := scans } := by
  have htext : ∀ c ∈ portal.drop 7, isPlain c := fun c hc => hplain c (List.mem_of_mem_drop hc)
  obtain ⟨count, fields, after, ptr, hsplit, hcount, hstrsep, hptr⟩ :=
    strsep_text ',' (by decide) (portal.drop 7) rest htext
  obtain ⟨stop, -, hconv⟩ := sscanfInt_text count after hcount
  have hfields : portalFields portal = fields := by rw [portalFields, hsplit, List.tail_cons]
  have hwritten : countWritten portal = (numberWritten count).getD 0 := by
    rw [countWritten, countField, hsplit, List.headD_cons]
  have hint : ((numberWritten count).map toInt32).getD 0 =
      toInt32 ((numberWritten count).getD 0) := by
    cases numberWritten count with
    | none => exact (toInt32_of_small le_rfl (by decide)).symm
    | some n => rfl
  refine ⟨ptr, hfields ▸ hptr, ?_⟩
  rw [portalParser, List.drop_append_of_le_length hseven, hstrsep, hwritten, ← hint]
  simp only [Option.bind_eq_bind, Option.bind_some, hconv]
  cases portalLoop (((numberWritten count).map toInt32).getD 0).toNat ptr <;> rfl

lemma newSession_holds (hfits : portal.length < maxPortalName) (beyond : List Char) :
    ∃ rest, portal ++ (newSession beyond).drop portal.length = portal ++ '\x00' :: rest := by
  obtain ⟨k, hk⟩ := Nat.exists_eq_add_of_lt hfits
  refine ⟨List.replicate k '\x00' ++ beyond, ?_⟩
  rw [newSession, List.drop_append_of_le_length (by rw [List.length_replicate]; omega),
    List.drop_replicate, hk, show portal.length + k + 1 - portal.length = k + 1 by omega,
    List.replicate_succ, List.cons_append]

lemma isSessionCreate_text (hplain : ∀ c ∈ portal, isPlain c) (hseven : 7 ≤ portal.length)
    (hfits : portal.length < maxPortalName) (beyond : List Char) :
    ∃ ptr, PointsTo ',' ptr (portalFields portal) ∧ ∀ connRets,
      isSessionCreate connRets (newSession beyond) portal =
        (portalLoop (toInt32 (countWritten portal)).toNat ptr).map fun scans =>
          ((connRets.find? (· ≠ 0)).getD 0,
            { cbNum := toInt32 (countWritten portal), scans := scans }) := by
  obtain ⟨rest, hmem⟩ := newSession_holds hfits beyond
  obtain ⟨ptr, hptr, hparser⟩ := portalParser_text hplain hseven rest
  refine ⟨ptr, hptr, fun connRets => ?_⟩
  rw [isSessionCreate, hmem, hparser]
  cases portalLoop (toInt32 (countWritten portal)).toNat ptr <;> rfl

lemma attrPortal_plain (buf : List Char) : ∀ c ∈ attrPortal buf, isPlain c :=
  fun _ hc => List.mem_takeWhile_imp hc

lemma rdmaPrefix_plain : ∀ c ∈ rdmaPrefix, isPlain c = true := List.all_eq_true.mp rfl

lemma seven_le_attrPortal (buf : List Char) : 7 ≤ (attrPortal buf).length := by
  have hseven : attrPortal buf =
      rdmaPrefix ++ (buf.takeWhile (· != '\x00')).takeWhile isPlain := by
    rw [attrPortal, strcatRdma, List.takeWhile_append_of_pos rdmaPrefix_plain]
  rw [hseven, List.length_append]
  exact Nat.le_add_right _ _

lemma length_splitOn_le (sep : Char) (text : List Char) :
    (text.splitOn sep).length ≤ text.length + 1 := by
  induction text with
  | nil => rw [List.splitOn_nil, List.length_singleton]; exact Nat.le_add_left _ _
  | cons c text ih =>
    rw [List.splitOn] at ih ⊢
    rw [List.splitOnP_cons_eq_if_modifyHead, List.length_cons]
    split
    · exact Nat.succ_le_succ ih
    · rw [List.length_modifyHead]
      omega

lemma portalFields_length_lt (hfits : portal.length < maxPortalName) :
    (portalFields portal).length < 2 ^ 31 := by
  have hsplit := length_splitOn_le ',' (portal.drop 7)
  rw [List.length_drop] at hsplit
  rw [portalFields, List.length_tail]
  rw [maxPortalName] at hfits
  omega

end DisStore.Proofs
