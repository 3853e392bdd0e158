import DisStore.Lib.Bytes

/-!
# C strings in memory

A pointer is given by the memory from where it points on, up to the end of what is mapped. A
read past the end is a fault and has no result.
-/

namespace DisStore.Lib

/-- The value of a string of decimal digits. -/
def decimalValue (digits : List Char) : Nat :=
  digits.foldl (fun n c => 10 * n + (c.toNat - '0'.toNat)) 0

/-- `isspace` of the kernel, where the no-break space is one. -/
def isspace (c : Char) : Bool :=
  c == ' ' || c == '\t' || c == '\n' || c == '\x0b' || c == '\x0c' || c == '\x0d' || c == '\xa0'

/-- A character that neither ends a string nor is skipped as white space. -/
def isPlain (c : Char) : Bool := c != '\x00' && !isspace c

/-- `strsep(&p, sep)` with one separator: the token, with a null character in the place of the
separator, and the new `p`, which is NULL after the last token. -/
def strsep (sep : Char) : List Char → Option (List Char × Option (List Char))
  | [] => none
  | c :: rest =>
    if c = sep then some ('\x00' :: rest, some rest)
    else if c = '\x00' then some (c :: rest, none)
    else do
      let (token, p) ← strsep sep rest
      some (c :: token, p)

def skipSpaces : List Char → Option (List Char)
  | [] => none
  | c :: rest => if isspace c then skipSpaces rest else some (c :: rest)

/-- The digits and the memory from the first character after them on. -/
def scanDigits : List Char → Option (List Char × List Char)
  | [] => none
  | c :: rest =>
    if c.isDigit then do
      let (digits, rest) ← scanDigits rest
      some (c :: digits, rest)
    else some ([], c :: rest)

/-- A minus sign and what stands after it. -/
def takeSign : List Char → Bool × List Char
  | '-' :: rest => (true, rest)
  | rest => (false, rest)

/-- The number that the digits stand for, if there are any. -/
def signedValue (neg : Bool) (digits : List Char) : Option Int :=
  if digits = [] then none
  else some (if neg then -(decimalValue digits : Int) else decimalValue digits)

/-- What `sscanf(p, "%d", &value)` stores, if anything, and how far it reads. -/
structure Conversion where
  value : Option Int
  stop : Nat
  deriving DecidableEq

/-- `sscanf(p, "%d", &value)` of the kernel: there is no plus sign, and a number that does not
fit is taken modulo its width. -/
def sscanfInt (p : List Char) : Option Conversion := do
  let start ← skipSpaces p
  let (digits, rest) ← scanDigits (takeSign start).2
  some { value := (signedValue (takeSign start).1 digits).map toInt32
         stop := p.length - rest.length }

/-- The number that a text starts with. -/
def numberWritten (text : List Char) : Option Int :=
  signedValue (takeSign text).1 ((takeSign text).2.takeWhile Char.isDigit)

/-- The pointer is at the first of these tokens of a string, or NULL if there are none. -/
def PointsTo (sep : Char) (p : Option (List Char)) (tokens : List (List Char)) : Prop :=
  (p = none ∧ tokens = []) ∨
    ∃ text rest, p = some (text ++ '\x00' :: rest) ∧ (∀ c ∈ text, isPlain c) ∧
      text.splitOn sep = tokens

lemma isPlain_ne_null {c : Char} (h : isPlain c = true) : c ≠ '\x00' := by
  simp only [isPlain, Bool.and_eq_true, bne_iff_ne] at h
  exact h.1

lemma isPlain_not_space {c : Char} (h : isPlain c = true) : isspace c = false := by
  simp only [isPlain, Bool.and_eq_true, Bool.not_eq_true'] at h
  exact h.2

lemma strsep_text (sep : Char) (hsep : sep ≠ '\x00') (text rest : List Char)
    (hplain : ∀ c ∈ text, isPlain c) :
    ∃ token tokens after p, text.splitOn sep = token :: tokens ∧ (∀ c ∈ token, isPlain c) ∧
      strsep sep (text ++ '\x00' :: rest) = some (token ++ '\x00' :: after, p) ∧
      PointsTo sep p tokens := by
  induction text with
  | nil =>
    have hne : ('\x00' : Char) ≠ sep := Ne.symm hsep
    refine ⟨[], [], rest, none, List.splitOn_nil sep, nofun, ?_, .inl ⟨rfl, rfl⟩⟩
    rw [List.nil_append, strsep, if_neg hne, if_pos rfl]
  | cons c text ih =>
    have htail : ∀ c ∈ text, isPlain c := fun d hd => hplain d (List.mem_cons_of_mem _ hd)
    have hhead := hplain c List.mem_cons_self
    by_cases hc : c = sep
    · refine ⟨[], text.splitOn sep, text ++ '\x00' :: rest, some (text ++ '\x00' :: rest), ?_,
        nofun, ?_, .inr ⟨text, rest, rfl, htail, rfl⟩⟩
      · rw [List.splitOn, List.splitOnP_cons_eq_if_modifyHead, if_pos (by simpa using hc)]
        rfl
      · rw [List.cons_append, strsep, if_pos hc]
        rfl
    · obtain ⟨token, tokens, after, p, hsplit, htoken, hstrsep, hp⟩ := ih htail
      refine ⟨c :: token, tokens, after, p, ?_, ?_, ?_, hp⟩
      · rw [List.splitOn] at hsplit ⊢
        rw [List.splitOnP_cons_eq_if_modifyHead, if_neg (by simpa using hc), hsplit]
        rfl
      · intro d hd
        rcases List.mem_cons.mp hd with rfl | hd
        · exact hhead
        · exact htoken d hd
      · rw [List.cons_append, strsep, if_neg hc, if_neg (isPlain_ne_null hhead), hstrsep]
        rfl

/-- The token is cut off before the first separator, whatever stands in the memory. -/
lemma strsep_cuts {sep : Char} {p token : List Char} {p' : Option (List Char)}
    (h : strsep sep p = some (token, p')) : sep ∉ token.takeWhile (· != '\x00') := by
  induction p generalizing token with
  | nil => cases h
  | cons c rest ih =>
    rw [strsep] at h
    split at h
    · cases h
      exact nofun
    · split at h
      · rename_i hc
        cases h
        subst hc
        exact nofun
      · rename_i hsep hnull
        rw [Option.bind_eq_bind, Option.bind_eq_some_iff] at h
        obtain ⟨⟨tail, q⟩, htail, hsome⟩ := h
        cases hsome
        rw [List.takeWhile_cons, if_pos (by simpa using hnull), List.mem_cons, not_or]
        exact ⟨Ne.symm hsep, ih htail⟩

lemma PointsTo.strsep {sep : Char} {p : List Char} {tokens : List (List Char)}
    (hsep : sep ≠ '\x00') (h : PointsTo sep (some p) tokens) :
    ∃ token tokens' after p', tokens = token :: tokens' ∧ (∀ c ∈ token, isPlain c) ∧
      strsep sep p = some (token ++ '\x00' :: after, p') ∧ PointsTo sep p' tokens' := by
  obtain ⟨hnone, -⟩ | ⟨text, rest, hp, hplain, htokens⟩ := h
  · cases hnone
  · cases hp
    obtain ⟨token, tokens', after, p', hsplit, htoken, hstrsep, hp'⟩ :=
      strsep_text sep hsep text rest hplain
    exact ⟨token, tokens', after, p', htokens.symm.trans hsplit, htoken, hstrsep, hp'⟩

lemma skipSpaces_text (text rest : List Char) (hplain : ∀ c ∈ text, isPlain c) :
    skipSpaces (text ++ '\x00' :: rest) = some (text ++ '\x00' :: rest) := by
  cases text with
  | nil => rfl
  | cons c text =>
    have hspace := isPlain_not_space (hplain c List.mem_cons_self)
    rw [List.cons_append, skipSpaces, hspace]
    rfl

lemma scanDigits_text (text rest : List Char) :
    scanDigits (text ++ '\x00' :: rest) =
      some (text.takeWhile Char.isDigit, text.dropWhile Char.isDigit ++ '\x00' :: rest) := by
  induction text with
  | nil => rfl
  | cons c text ih =>
    rw [List.cons_append, scanDigits, List.takeWhile_cons, List.dropWhile_cons]
    by_cases hc : c.isDigit = true
    · rw [if_pos hc, if_pos hc, if_pos hc, ih]
      rfl
    · rw [if_neg hc, if_neg hc, if_neg hc]
      rfl

lemma takeSign_append (text rest : List Char) :
    takeSign (text ++ '\x00' :: rest) =
      ((takeSign text).1, (takeSign text).2 ++ '\x00' :: rest) := by
  unfold takeSign
  split
  · rename_i tail heq
    cases text with
    | nil => simp at heq
    | cons c text =>
      obtain ⟨rfl, rfl⟩ := List.cons.inj heq
      rfl
  · rename_i hne
    split
    · rename_i tail
      exact (hne (tail ++ '\x00' :: rest) rfl).elim
    · rfl

lemma takeSign_length (text : List Char) : (takeSign text).2.length ≤ text.length := by
  unfold takeSign
  split
  · exact Nat.le_succ _
  · exact Nat.le_refl _

/-- Inside a string, the conversion gives the number that is written and does not read past
the null character. -/
lemma sscanfInt_text (text rest : List Char) (hplain : ∀ c ∈ text, isPlain c) :
    ∃ stop, stop ≤ text.length ∧ sscanfInt (text ++ '\x00' :: rest) =
      some { value := (numberWritten text).map toInt32, stop := stop } := by
  have hlen := takeSign_length text
  refine ⟨(text ++ '\x00' :: rest).length -
    ((takeSign text).2.dropWhile Char.isDigit ++ '\x00' :: rest).length, ?_, ?_⟩
  · simp only [List.length_append, List.length_cons]
    omega
  · rw [sscanfInt, skipSpaces_text text rest hplain]
    simp only [Option.bind_eq_bind, Option.bind_some, takeSign_append, scanDigits_text]
    rfl

end DisStore.Lib
