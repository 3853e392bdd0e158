import DisStore.Proofs.PortalParser

/-!
# The portal file in the portal list

`createHost` joins the lines of a portal file with commas, and the parser finds the same
addresses and ports in the string, in the order of the file.
-/

namespace DisStore
open DisStore.Lib

/-- A decimal number as it is written. -/
structure Decimal where
  digits : List Char
  isDigit : ∀ c ∈ digits, c.isDigit = true
  nonempty : digits ≠ []

def Decimal.value (d : Decimal) : Nat := decimalValue d.digits

structure Octet extends Decimal where
  short : digits.length ≤ 3
  le : toDecimal.value ≤ 255

/-- A line of the file for a server: a dotted address and a port. -/
structure PortalLine where
  octet1 : Octet
  octet2 : Octet
  octet3 : Octet
  octet4 : Octet
  port : Decimal
  port_pos : 1 ≤ port.value
  port_le : port.value ≤ 65535

namespace PortalLine

def ip (l : PortalLine) : List Char :=
  l.octet1.digits ++ '.' :: (l.octet2.digits ++ '.' :: (l.octet3.digits ++ '.' ::
    l.octet4.digits))

def text (l : PortalLine) : List Char := l.ip ++ ':' :: l.port.digits

def entry (l : PortalLine) : ISPortal := { port := UInt16.ofNat l.port.value, addr := l.ip }

end PortalLine

/-- The content of a file with these lines; the last one has no newline. -/
def fileText (lines : List (List Char)) (last : List Char) : List Char :=
  (lines.map (· ++ ['\n'])).flatten ++ last

/-- The lines of the file that are not blank are the count and the portals. -/
structure PortalFile (file : List Char) (count : Decimal) (portals : List PortalLine) : Prop where
  lines : ∃ lines last, file = fileText lines last ∧
    (lines ++ [last]).filter (· ≠ []) = count.digits :: portals.map PortalLine.text
  count : count.value = portals.length
  pos : 1 ≤ portals.length

/-- The characters of the lines. -/
def isLineChar (c : Char) : Bool := c.isDigit || c == '.' || c == ':'

/-- The texts with a comma after each of them. -/
def joined (texts : List (List Char)) : List Char := (texts.map (· ++ [','])).flatten

end DisStore

namespace DisStore.Proofs
open DisStore DisStore.Lib

variable {line last : List Char}

lemma isLineChar_ne {c d : Char} (h : isLineChar c = true) (hd : isLineChar d = false) :
    c ≠ d := by
  rintro rfl
  rw [h] at hd
  cases hd

lemma isLineChar_isPlain {c : Char} (h : isLineChar c = true) : isPlain c = true := by
  by_contra hplain
  simp only [isPlain, isspace, Bool.and_eq_true, bne_iff_ne, Bool.not_eq_true',
    Bool.or_eq_false_iff, beq_eq_false_iff_ne, not_and_or, not_not] at hplain
  rcases hplain with rfl | (((((rfl | rfl) | rfl) | rfl) | rfl) | rfl) | rfl
  all_goals exact absurd h (by decide)

lemma isLineChar_not_stripped {c : Char} (h : isLineChar c = true) : isStripped c = false := by
  have hspace := isPlain_not_space (isLineChar_isPlain h)
  simp only [isspace, Bool.or_eq_false_iff] at hspace
  simp only [isStripped, Bool.or_eq_false_iff]
  exact hspace.1

lemma readlines_line (h : ∀ c ∈ line, isLineChar c = true) (rest : List Char) :
    readlines (line ++ '\n' :: rest) = (line ++ ['\n']) :: readlines rest := by
  induction line with
  | nil => rfl
  | cons c line ih =>
    have hc := isLineChar_ne (h c List.mem_cons_self) (d := '\n') (by decide)
    rw [List.cons_append, readlines, if_neg hc,
      ih (fun d hd => h d (List.mem_cons_of_mem _ hd))]
    rfl

lemma readlines_last (h : ∀ c ∈ last, isLineChar c = true) (hne : last ≠ []) :
    readlines last = [last] := by
  induction last with
  | nil => exact (hne rfl).elim
  | cons c last ih =>
    have hc := isLineChar_ne (h c List.mem_cons_self) (d := '\n') (by decide)
    rw [readlines, if_neg hc]
    cases hlast : last with
    | nil => rfl
    | cons d rest =>
      rw [← hlast, ih (fun e he => h e (List.mem_cons_of_mem _ he)) (by rw [hlast]; nofun)]

lemma dropWhile_isStripped (h : ∀ c ∈ line, isLineChar c = true) (hne : line ≠ [])
    (rest : List Char) : (line ++ rest).dropWhile isStripped = line ++ rest := by
  obtain ⟨c, tail, rfl⟩ := List.exists_cons_of_ne_nil hne
  have hc := isLineChar_not_stripped (h c List.mem_cons_self)
  rw [List.cons_append, List.dropWhile_cons, hc]
  rfl

lemma strip_line (h : ∀ c ∈ line, isLineChar c = true) (hne : line ≠ []) :
    strip (line ++ ['\n']) = line ∧ strip line = line := by
  have hreverse : ∀ c ∈ line.reverse, isLineChar c = true :=
    fun c hc => h c (List.mem_reverse.mp hc)
  have hback : line.reverse.dropWhile isStripped = line.reverse := by
    simpa using dropWhile_isStripped hreverse (by simpa using hne) []
  have hnewline : (line ++ ['\n']).reverse.dropWhile isStripped = line.reverse := by
    rw [List.reverse_append, List.reverse_singleton, List.singleton_append,
      List.dropWhile_cons, if_pos (by decide), hback]
  constructor
  · rw [strip, dropWhile_isStripped h hne, hnewline, List.reverse_reverse]
  · have hfront : line.dropWhile isStripped = line := by
      simpa using dropWhile_isStripped h hne []
    rw [strip, hfront, hback, List.reverse_reverse]

lemma joinLines_cons (line : List Char) (lines : List (List Char)) (pStr : List Char) :
    joinLines (line :: lines) pStr =
      joinLines lines (if line = ['\n'] then pStr else pStr ++ strip line ++ [',']) := rfl

/-- The string that is written: the lines that are not blank, each with a comma. -/
lemma joinLines_fileText (lines : List (List Char)) (last pStr : List Char)
    (h : ∀ line ∈ lines ++ [last], ∀ c ∈ line, isLineChar c = true) :
    joinLines (readlines (fileText lines last)) pStr =
      pStr ++ joined ((lines ++ [last]).filter (· ≠ [])) := by
  induction lines generalizing pStr with
  | nil =>
    have hlast := h last (List.mem_append_right _ List.mem_cons_self)
    rw [fileText, List.map_nil, List.flatten_nil, List.nil_append, List.nil_append]
    by_cases hne : last = []
    · subst hne
      simp [readlines, joinLines, joined]
    · have hblank : last ≠ ['\n'] := by
        rintro rfl
        exact absurd (hlast '\n' List.mem_cons_self) (by decide)
      rw [readlines_last hlast hne, joinLines_cons, if_neg hblank, (strip_line hlast hne).2]
      simp [joinLines, joined, hne]
  | cons line lines ih =>
    have hline := h line (List.mem_append_left _ List.mem_cons_self)
    have hrest : ∀ line ∈ lines ++ [last], ∀ c ∈ line, isLineChar c = true :=
      fun line' hmem => h line' (List.mem_cons_of_mem _ hmem)
    have hfile : fileText (line :: lines) last = line ++ '\n' :: fileText lines last := by
      simp [fileText]
    rw [hfile, readlines_line hline, joinLines_cons, ih _ hrest, List.cons_append,
      List.filter_cons]
    by_cases hne : line = []
    · subst hne
      simp
    · have hblank : line ++ ['\n'] ≠ ['\n'] := by
        intro heq
        exact hne (List.append_left_eq_self.mp heq)
      rw [if_neg hblank, (strip_line hline hne).1, if_pos (by simpa using hne)]
      simp [joined]

/-! ## The fields of the string -/

lemma splitOn_joined (texts : List (List Char)) (h : ∀ text ∈ texts, ',' ∉ text) :
    (joined texts).splitOn ',' = texts ++ [[]] := by
  induction texts with
  | nil => rfl
  | cons text texts ih =>
    have hjoined : joined (text :: texts) = text ++ ',' :: joined texts := by simp [joined]
    have hcomma : ∀ c ∈ text, (c == ',') = false := by
      intro c hc
      have hne : c ≠ ',' := fun heq => h text List.mem_cons_self (heq ▸ hc)
      simpa using hne
    have htexts := ih (fun text' hmem => h text' (List.mem_cons_of_mem _ hmem))
    rw [hjoined, List.splitOn, List.splitOnP_append_cons_of_forall_mem hcomma ',' (by decide)]
    rw [List.splitOn] at htexts
    rw [htexts, List.cons_append]

lemma decimal_isLineChar (d : Decimal) : ∀ c ∈ d.digits, isLineChar c = true := by
  intro c hc
  simp [isLineChar, d.isDigit c hc]

lemma numberWritten_decimal (d : Decimal) : numberWritten d.digits = some (d.value : Int) := by
  obtain ⟨c, rest, hdigits⟩ := List.exists_cons_of_ne_nil d.nonempty
  have hc : c ≠ '-' := by
    rintro rfl
    have hdigit := d.isDigit '-' (by rw [hdigits]; exact List.mem_cons_self)
    exact absurd hdigit (by decide)
  have hsign : takeSign d.digits = (false, d.digits) := by
    rw [hdigits, takeSign]
    rintro tail heq
    exact hc (List.cons.inj heq).1
  have hall : d.digits.takeWhile Char.isDigit = d.digits :=
    List.takeWhile_eq_self_iff.mpr d.isDigit
  rw [numberWritten, hsign]
  dsimp only
  rw [hall, signedValue, if_neg d.nonempty]
  rfl

namespace PortalLine

lemma ip_digit_or_point (l : PortalLine) : ∀ c ∈ l.ip, c.isDigit = true ∨ c = '.' := by
  intro c hc
  simp only [PortalLine.ip, List.mem_append, List.mem_cons] at hc
  rcases hc with h | h | h | h | h | h | h
  · exact .inl (l.octet1.isDigit c h)
  · exact .inr h
  · exact .inl (l.octet2.isDigit c h)
  · exact .inr h
  · exact .inl (l.octet3.isDigit c h)
  · exact .inr h
  · exact .inl (l.octet4.isDigit c h)

lemma ip_length (l : PortalLine) : l.ip.length ≤ 15 := by
  have h1 := l.octet1.short
  have h2 := l.octet2.short
  have h3 := l.octet3.short
  have h4 := l.octet4.short
  simp only [PortalLine.ip, List.length_append, List.length_cons]
  omega

lemma text_isLineChar (l : PortalLine) : ∀ c ∈ l.text, isLineChar c = true := by
  intro c hc
  rw [PortalLine.text, List.mem_append, List.mem_cons] at hc
  rcases hc with h | rfl | h
  · rcases ip_digit_or_point l c h with hdigit | rfl
    · simp [isLineChar, hdigit]
    · rfl
  · rfl
  · exact decimal_isLineChar l.port c h

lemma portalAddr_text (l : PortalLine) : portalAddr l.text = l.ip := by
  have hip : ∀ c ∈ l.ip, (c != ':') = true := by
    intro c hc
    rw [bne_iff_ne]
    rintro rfl
    rcases ip_digit_or_point l ':' hc with h | h
    · exact absurd h (by decide)
    · exact absurd h (by decide)
  rw [portalAddr, PortalLine.text, List.takeWhile_append_of_pos hip, List.takeWhile_cons,
    if_neg (by decide), List.append_nil]

lemma portalText_text (l : PortalLine) : portalText l.text = l.port.digits := by
  rw [portalText, portalAddr_text, PortalLine.text, ← List.drop_drop, List.drop_left]
  rfl

lemma text_wellFormed (l : PortalLine) : WellFormedField l.text := by
  refine ⟨?_, ?_, l.port.value, ?_, Int.natCast_nonneg _, ?_⟩
  · exact List.mem_append_right _ List.mem_cons_self
  · rw [portalAddr_text]
    exact ip_length l
  · rw [portalText_text, numberWritten_decimal]
  · have hle := l.port_le
    omega

lemma scan_entry (l : PortalLine) {scan : PortalScan} (hsafe : SafeScan l.text scan)
    (haddr : scan.portal.addr = portalAddr l.text) : scan.portal = l.entry := by
  have hport := hsafe.port
  rw [portalText_text, numberWritten_decimal, Option.some.injEq, Nat.cast_inj] at hport
  rw [portalAddr_text] at haddr
  rw [PortalLine.entry, hport, UInt16.ofNat_toNat, ← haddr]

end PortalLine

lemma scans_entries (portals : List PortalLine) {scans : List PortalScan}
    (h : List.Forall₂ (fun field scan => SafeScan field scan ∧ scan.portal.addr = portalAddr field)
      (portals.map PortalLine.text) scans) :
    scans.map (·.portal) = portals.map PortalLine.entry := by
  induction portals generalizing scans with
  | nil =>
    cases h
    rfl
  | cons l portals ih =>
    rw [List.map_cons, List.forall₂_cons_left_iff] at h
    obtain ⟨scan, scans, ⟨hsafe, haddr⟩, htail, rfl⟩ := h
    rw [List.map_cons, List.map_cons, PortalLine.scan_entry l hsafe haddr, ih htail]

section RoundTrip
variable {file : List Char} {count : Decimal} {portals : List PortalLine}

lemma texts_isLineChar (count : Decimal) (portals : List PortalLine) :
    ∀ text ∈ count.digits :: portals.map PortalLine.text, ∀ c ∈ text, isLineChar c = true := by
  intro text htext
  rcases List.mem_cons.mp htext with rfl | htext
  · exact decimal_isLineChar count
  · obtain ⟨l, -, rfl⟩ := List.mem_map.mp htext
    exact PortalLine.text_isLineChar l

lemma createHost_portalFile (h : PortalFile file count portals) :
    createHost file = joined (count.digits :: portals.map PortalLine.text) := by
  obtain ⟨lines, last, rfl, hfilter⟩ := h.lines
  have hchars : ∀ line ∈ lines ++ [last], ∀ c ∈ line, isLineChar c = true := by
    intro line hline c hc
    have hne : line ≠ [] := List.ne_nil_of_mem hc
    have hmem : line ∈ (lines ++ [last]).filter (· ≠ []) :=
      List.mem_filter.mpr ⟨hline, by simpa using hne⟩
    rw [hfilter] at hmem
    exact texts_isLineChar count portals line hmem c hc
  rw [createHost, joinLines_fileText lines last [] hchars, hfilter, List.nil_append]

lemma attrPortal_joined (texts : List (List Char))
    (h : ∀ text ∈ texts, ∀ c ∈ text, isLineChar c = true) :
    attrPortal (joined texts) = rdmaPrefix ++ joined texts := by
  have hplain : ∀ c ∈ joined texts, isPlain c = true := by
    intro c hc
    simp only [joined, List.mem_flatten, List.mem_map] at hc
    obtain ⟨-, ⟨text, htext, rfl⟩, hc⟩ := hc
    rcases List.mem_append.mp hc with hc | hc
    · exact isLineChar_isPlain (h text htext c hc)
    · rw [List.mem_singleton.mp hc]
      rfl
  have hnull : (joined texts).takeWhile (· != '\x00') = joined texts :=
    List.takeWhile_eq_self_iff.mpr fun c hc => by simpa using isPlain_ne_null (hplain c hc)
  rw [attrPortal, strcatRdma, hnull, List.takeWhile_append_of_pos rdmaPrefix_plain,
    List.takeWhile_eq_self_iff.mpr hplain]

lemma fields_joined (count : Decimal) (portals : List PortalLine) :
    countField (rdmaPrefix ++ joined (count.digits :: portals.map PortalLine.text)) =
      count.digits ∧
    portalFields (rdmaPrefix ++ joined (count.digits :: portals.map PortalLine.text)) =
      portals.map PortalLine.text ++ [[]] := by
  have hcomma : ∀ text ∈ count.digits :: portals.map PortalLine.text, ',' ∉ text := by
    intro text htext hmem
    exact absurd (texts_isLineChar count portals text htext ',' hmem) (by decide)
  have hsplit := splitOn_joined _ hcomma
  have hdrop : ∀ text : List Char, (rdmaPrefix ++ text).drop 7 = text := fun _ => rfl
  rw [countField, portalFields, hdrop, hsplit]
  exact ⟨rfl, rfl⟩

lemma find?_ne_zero (connRets : List Int) :
    (connRets.find? (· ≠ 0)).getD 0 = 0 ↔ ∀ ret ∈ connRets, ret = 0 := by
  cases hfind : connRets.find? (· ≠ 0) with
  | none => simpa using hfind
  | some ret =>
    have hne : ret ≠ 0 := by simpa using List.find?_some hfind
    constructor
    · intro h
      exact (hne h).elim
    · intro h
      exact h ret (List.mem_of_find?_eq_some hfind)

lemma isSessionCreate_portals {portal : List Char} (hplain : ∀ c ∈ portal, isPlain c = true)
    (hseven : 7 ≤ portal.length) (hfits : portal.length < maxPortalName)
    (hcount : countField portal = count.digits) (hvalue : count.value = portals.length)
    (hfields : portalFields portal = portals.map PortalLine.text ++ [[]])
    (beyond : List Char) :
    ∃ parsed : ParsedPortals, parsed.cbNum = portals.length ∧
      parsed.portalList = portals.map PortalLine.entry ∧
      ∀ connRets, isSessionCreate connRets (newSession beyond) portal =
        some ((connRets.find? (· ≠ 0)).getD 0, parsed) := by
  obtain ⟨ptr, hptr, hcreate⟩ := isSessionCreate_text hplain hseven hfits beyond
  have hwritten : countWritten portal = portals.length := by
    rw [countWritten, hcount, numberWritten_decimal, Option.getD_some, hvalue]
  have hsmall := portalFields_length_lt hfits
  rw [hfields, List.length_append, List.length_map, List.length_singleton] at hsmall
  have hint : toInt32 (countWritten portal) = portals.length := by
    rw [hwritten]
    exact toInt32_of_small (Int.natCast_nonneg _) (by omega)
  rw [hint, Int.toNat_natCast] at hcreate
  rw [hfields] at hptr
  have htake : (portals.map PortalLine.text ++ [[]]).take portals.length =
      portals.map PortalLine.text := by
    rw [← List.length_map PortalLine.text, List.take_left]
  obtain ⟨scans, hloop, hscans⟩ := portalLoop_wellFormed portals.length hptr
    (by rw [List.length_append, List.length_map]; exact Nat.le_add_right _ _) (by
      rw [htake]
      intro field hfield
      obtain ⟨l, -, rfl⟩ := List.mem_map.mp hfield
      exact PortalLine.text_wellFormed l)
  rw [htake] at hscans
  refine ⟨⟨portals.length, scans⟩, rfl, scans_entries portals hscans, fun connRets => ?_⟩
  rw [hcreate, hloop]
  rfl

/-- **The portal list is the portal file**: `portal_attr_store` of what `createHost` writes for
a portal file gives the number of its portals and their addresses and ports, in order, in a new
session; whether the attribute is accepted depends on `IS_create_conn` alone. -/
theorem portal_file_round_trip (file : List Char) (count : Decimal) (portals : List PortalLine)
    (h : PortalFile file count portals)
    (hfits : (rdmaPrefix ++ createHost file).length < maxPortalName)
    (sessions : List SessionName) (beyond : List Char) (connRets : List Int) :
    ∃ parsed : ParsedPortals, parsed.cbNum = portals.length ∧
      parsed.portalList = portals.map PortalLine.entry ∧
      portalAttrStore sessions connRets (newSession beyond) (createHost file) =
        some (if ∀ ret ∈ connRets, ret = 0 then .count parsed else .einval parsed) := by
  have hhost := createHost_portalFile h
  have hattr := attrPortal_joined _ (texts_isLineChar count portals)
  rw [← hhost] at hattr
  obtain ⟨hcount, hfields⟩ := fields_joined count portals
  rw [← hhost, ← hattr] at hcount hfields
  rw [← hattr] at hfits
  obtain ⟨parsed, hnum, hlist, hcreate⟩ := isSessionCreate_portals (attrPortal_plain _)
    (seven_le_attrPortal _) hfits hcount h.count hfields beyond
  -- the string has a comma, and no session in the list still has one
  have hcomma : ',' ∈ attrPortal (createHost file) := by
    rw [hattr, hhost]
    simp [joined]
  have hnew : sessions.any (fun pos => pos.text == attrPortal (createHost file)) = false := by
    rw [List.any_eq_false]
    intro pos _ heq
    exact pos.no_comma (beq_iff_eq.mp heq ▸ hcomma)
  refine ⟨parsed, hnum, hlist, ?_⟩
  rw [portalAttrStore]
  simp only [hnew, hcreate, Option.bind_eq_bind, Option.bind_some]
  by_cases hconn : ∀ ret ∈ connRets, ret = 0
  · rw [if_pos hconn, (find?_ne_zero connRets).mpr hconn]
    rfl
  · rw [if_neg hconn, if_pos (mt (find?_ne_zero connRets).mp hconn)]
    rfl

end RoundTrip

def oneDigit : Decimal :=
  { digits := ['1'], isDigit := List.all_eq_true.mp rfl, nonempty := by decide }

def octetOne : Octet := { oneDigit with short := by decide, le := by decide }

/-- `1.1.1.1:9400` -/
def firstLine : PortalLine where
  octet1 := octetOne
  octet2 := octetOne
  octet3 := octetOne
  octet4 := octetOne
  port :=
    { digits := ['9', '4', '0', '0'], isDigit := List.all_eq_true.mp rfl, nonempty := by decide }
  port_pos := by decide
  port_le := by decide

/-- `255.1.1.1:65535` -/
def lastLine : PortalLine where
  octet1 :=
    { digits := ['2', '5', '5']
      isDigit := List.all_eq_true.mp rfl
      nonempty := by decide
      short := by decide
      le := by decide }
  octet2 := octetOne
  octet3 := octetOne
  octet4 := octetOne
  port :=
    { digits := ['6', '5', '5', '3', '5']
      isDigit := List.all_eq_true.mp rfl
      nonempty := by decide }
  port_pos := by decide
  port_le := by decide

def twoDigit : Decimal :=
  { digits := ['2'], isDigit := List.all_eq_true.mp rfl, nonempty := by decide }

/-- A file of two servers with a blank line in it and no newline at the end; the second
connection cannot be made. -/
theorem two_portals_file_round_trip :
    ∃ parsed : ParsedPortals, parsed.cbNum = 2 ∧ parsed.portalList =
        [{ port := 9400, addr := ['1', '.', '1', '.', '1', '.', '1'] },
          { port := 65535, addr := ['2', '5', '5', '.', '1', '.', '1', '.', '1'] }] ∧
      portalAttrStore [SessionName.new] [0, -22] (newSession [])
          (createHost (fileText [['2'], [], firstLine.text] lastLine.text)) =
        some (.einval parsed) :=
  portal_file_round_trip (fileText [['2'], [], firstLine.text] lastLine.text) twoDigit
    [firstLine, lastLine] ⟨⟨[['2'], [], firstLine.text], lastLine.text, rfl, by decide⟩, by decide,
      by decide⟩ (by decide) [SessionName.new] [] [0, -22]

end DisStore.Proofs
