/-!
# Text with quoted literals

A text that mixes code with literals between single quotes is cut into pieces: the
characters of the code one by one, and each literal as the text between its quotes. A
literal extends to the next quote that is not escaped. How a quote is escaped is one of
two conventions: a backslash before it, or the quote written twice.

- `pieces`: cut a text, `none` if a literal is not ended.
- `text_pieces`: the pieces written out again are the text they were cut from.
- `pieces_code_append`: code without quotes is cut off character by character.
- `pieces_quoted_iff`: a literal written without escaping is one piece again, one that
  contains no escape, exactly when it contains neither the quote nor the escape mark.
-/

namespace SensorNet.QuotedText

/-- How a quote is written inside a literal -/
inductive Escaping where
  /-- With a backslash before it -/
  | backslash
  /-- Written twice -/
  | doubling
  deriving DecidableEq

/-- The character with which an escape begins -/
def Escaping.mark : Escaping → Char
  | backslash => '\\'
  | doubling => '\''

/-- A piece of a text -/
inductive Piece where
  /-- A character outside of all literals -/
  | code (c : Char)
  /-- A literal, by the text between its quotes -/
  | quoted (raw : List Char)
  deriving DecidableEq

/-- The piece as it is written -/
def Piece.text : Piece → List Char
  | code c => [c]
  | quoted raw => '\'' :: raw ++ ['\'']

/-- Where in the text we are -/
inductive Mode where
  /-- Outside of all literals -/
  | code
  /-- In a literal of which this was read -/
  | inside (raw : List Char)
  /-- In or at the end of a literal, after an escape mark -/
  | marked (raw : List Char)

/-- What was read of a piece that is not complete -/
def Mode.text (esc : Escaping) : Mode → List Char
  | code => []
  | inside raw => '\'' :: raw
  | marked raw => '\'' :: raw ++ [esc.mark]

/-- Read a character: the pieces it completes, and where we are after it. -/
def step (esc : Escaping) : Mode → Char → List Piece × Mode
  | .code, c => if c = '\'' then ([], .inside []) else ([.code c], .code)
  | .inside raw, c =>
    if c = esc.mark then ([], .marked raw)
    else if c = '\'' then ([.quoted raw], .code)
    else ([], .inside (raw ++ [c]))
  | .marked raw, c =>
    -- A quote that is not followed by a second one was the end of the literal.
    if esc = .doubling ∧ c ≠ '\'' then ([.quoted raw, .code c], .code)
    else ([], .inside (raw ++ [esc.mark, c]))

/-- The pieces that the end of the text completes -/
def finish (esc : Escaping) : Mode → Option (List Piece)
  | .code => some []
  | .inside _ => none
  | .marked raw => if esc = .doubling then some [.quoted raw] else none

/-- Cut a text into pieces. -/
def pieces (esc : Escaping) (mode : Mode) : List Char → Option (List Piece)
  | [] => finish esc mode
  | c :: cs => (pieces esc (step esc mode c).2 cs).map ((step esc mode c).1 ++ ·)

/-! ## Nothing is lost -/

theorem text_step (esc : Escaping) (mode : Mode) (c : Char) :
    (step esc mode c).1.flatMap Piece.text ++ (step esc mode c).2.text esc
      = mode.text esc ++ [c] := by
  cases mode with
  | code => by_cases h : c = '\'' <;> simp [step, h, Piece.text, Mode.text]
  | inside raw =>
    by_cases hm : c = esc.mark
    · simp [step, hm, Mode.text]
    · by_cases h : c = '\''
      · subst h
        simp [step, hm, Piece.text, Mode.text]
      · simp [step, hm, h, Mode.text]
  | marked raw =>
    by_cases h : esc = .doubling ∧ c ≠ '\''
    · simp [step, h, Piece.text, Mode.text, Escaping.mark]
    · simp [step, h, Mode.text]

theorem text_finish {esc : Escaping} {mode : Mode} {ps : List Piece}
    (h : finish esc mode = some ps) : ps.flatMap Piece.text = mode.text esc := by
  cases mode with
  | code =>
    cases h
    rfl
  | inside raw => cases h
  | marked raw =>
    cases esc with
    | backslash => cases h
    | doubling =>
      cases h
      simp [Piece.text, Mode.text, Escaping.mark]

/-- **The pieces written out are the text.** -/
theorem text_pieces {esc : Escaping} {mode : Mode} {cs : List Char} {ps : List Piece}
    (h : pieces esc mode cs = some ps) : ps.flatMap Piece.text = mode.text esc ++ cs := by
  induction cs generalizing mode ps with
  | nil => simpa using text_finish h
  | cons c cs ih =>
    obtain ⟨rest, hrest, rfl⟩ := Option.map_eq_some_iff.mp h
    calc ((step esc mode c).1 ++ rest).flatMap Piece.text
        = (step esc mode c).1.flatMap Piece.text ++ ((step esc mode c).2.text esc ++ cs) := by
          rw [List.flatMap_append, ih hrest]
      _ = mode.text esc ++ c :: cs := by
          rw [← List.append_assoc, text_step, List.append_assoc]
          rfl

/-! ## Code and literals -/

/-- Code without quotes is cut off character by character. -/
theorem pieces_code_append (esc : Escaping) {code : List Char} (h : '\'' ∉ code)
    (cs : List Char) :
    pieces esc .code (code ++ cs) = (pieces esc .code cs).map (code.map .code ++ ·) := by
  induction code with
  | nil => simp
  | cons c code ih =>
    have hc : c ≠ '\'' := fun hc => h (by simp [hc])
    have hrest : '\'' ∉ code := fun hmem => h (List.mem_cons_of_mem c hmem)
    simp [pieces, step, hc, ih hrest, Function.comp_def]

theorem step_code_ne_quote (esc : Escaping) (mode : Mode) (c : Char) :
    .code '\'' ∉ (step esc mode c).1 := by
  cases mode with
  | code => by_cases h : c = '\'' <;> simp [step, h, eq_comm]
  | inside raw =>
    by_cases hm : c = esc.mark
    · simp [step, hm]
    · by_cases h : c = '\''
      · subst h
        simp [step, hm]
      · simp [step, hm, h]
  | marked raw =>
    by_cases h : esc = .doubling ∧ c ≠ '\''
    · simp [step, h, Ne.symm h.2]
    · simp [step, h]

theorem finish_code_ne_quote {esc : Escaping} {mode : Mode} {ps : List Piece}
    (h : finish esc mode = some ps) : .code '\'' ∉ ps := by
  cases mode with
  | code =>
    cases h
    simp
  | inside raw => cases h
  | marked raw =>
    cases esc with
    | backslash => cases h
    | doubling =>
      cases h
      simp

/-- A character of the code is not a quote. -/
theorem code_ne_quote {esc : Escaping} {mode : Mode} {cs : List Char} {ps : List Piece}
    (h : pieces esc mode cs = some ps) : .code '\'' ∉ ps := by
  induction cs generalizing mode ps with
  | nil => exact finish_code_ne_quote h
  | cons c cs ih =>
    obtain ⟨rest, hrest, rfl⟩ := Option.map_eq_some_iff.mp h
    exact fun hmem => (List.mem_append.mp hmem).elim (step_code_ne_quote esc mode c) (ih hrest)

/-- Text with neither a quote nor an escape mark is read as it is. -/
theorem pieces_inside_append (esc : Escaping) {v : List Char} (hq : '\'' ∉ v)
    (hm : esc.mark ∉ v) (raw cs : List Char) :
    pieces esc (.inside raw) (v ++ cs) = pieces esc (.inside (raw ++ v)) cs := by
  induction v generalizing raw with
  | nil => simp
  | cons c v ih =>
    simp only [List.mem_cons, not_or] at hq hm
    have hc : step esc (.inside raw) c = ([], .inside (raw ++ [c])) := by
      simp [step, Ne.symm hq.1, Ne.symm hm.1]
    calc pieces esc (.inside raw) (c :: v ++ cs)
        = pieces esc (.inside (raw ++ [c])) (v ++ cs) := by simp [pieces, hc]
      _ = pieces esc (.inside (raw ++ c :: v)) cs := by
          rw [ih hq.2 hm.2, List.append_assoc]
          rfl

/-- A literal as it is written without escaping anything -/
def quote (v : List Char) : List Char := '\'' :: v ++ ['\'']

theorem pieces_quote (esc : Escaping) {v : List Char} (hq : '\'' ∉ v) (hm : esc.mark ∉ v) :
    pieces esc .code (quote v) = some [.quoted v] := by
  have hopen : pieces esc .code (quote v) = pieces esc (.inside []) (v ++ ['\'']) := by
    simp [quote, pieces, step]
  rw [hopen, pieces_inside_append esc hq hm]
  cases esc with
  | backslash => simp [pieces, step, finish, Escaping.mark]
  | doubling => simp [pieces, step, finish, Escaping.mark]

/-- A quote in the text ends the literal before the end of the text. -/
theorem no_quote_of_pieces_quote {esc : Escaping} {v : List Char} (hm : esc.mark ∉ v)
    (h : pieces esc .code (quote v) = some [.quoted v]) : '\'' ∉ v := by
  intro hq
  cases esc with
  | doubling => exact hm hq
  | backslash =>
    obtain ⟨a, b, rfl, ha⟩ := List.eq_append_cons_of_mem hq
    have hma : Escaping.backslash.mark ∉ a := fun hmem => hm (List.mem_append_left _ hmem)
    have hclose : pieces .backslash .code (quote (a ++ '\'' :: b))
        = (pieces .backslash .code (b ++ ['\''])).map (.quoted a :: ·) := by
      calc pieces .backslash .code (quote (a ++ '\'' :: b))
          = pieces .backslash (.inside []) (a ++ '\'' :: (b ++ ['\''])) := by
            simp [quote, pieces, step]
        _ = (pieces .backslash .code (b ++ ['\''])).map (.quoted a :: ·) := by
            rw [pieces_inside_append _ ha hma]
            simp [pieces, step, Escaping.mark]
    rw [hclose] at h
    obtain ⟨rest, -, hrest⟩ := Option.map_eq_some_iff.mp h
    have hlen : a = a ++ '\'' :: b := by
      injection hrest with hhead
      injection hhead
    simpa using congrArg List.length hlen

/-! ## What the literals denote -/

/-- A token of the text -/
inductive Token where
  /-- A character outside of all literals -/
  | code (c : Char)
  /-- A literal, by what it denotes -/
  | literal (value : List Char)
  deriving DecidableEq

/-- How literals are written and what they denote -/
structure Quoting where
  /-- How a quote is escaped -/
  escaping : Escaping
  /-- What a literal denotes, `none` if an escape in it has no meaning -/
  denotes : List Char → Option (List Char)
  /-- (1) Text without an escape denotes itself. -/
  plain : ∀ raw, escaping.mark ∉ raw → denotes raw = some raw
  /-- (2) Text with one does not. -/
  escaped : ∀ raw, escaping.mark ∈ raw → denotes raw ≠ some raw

namespace Quoting

variable (q : Quoting)

/-- What a piece denotes -/
def token : Piece → Option Token
  | .code c => some (.code c)
  | .quoted raw => (q.denotes raw).map .literal

/-- The tokens of a text, `none` if it has none -/
def tokens (text : List Char) : Option (List Token) :=
  (pieces q.escaping .code text).bind fun ps => ps.mapM q.token

theorem mapM_token_code (code : List Char) (ps : List Piece) :
    (code.map Piece.code ++ ps).mapM q.token
      = (ps.mapM q.token).map (code.map Token.code ++ ·) := by
  induction code with
  | nil => simp
  | cons c code ih =>
    simp only [List.map_cons, List.cons_append, List.mapM_cons, token, ih]
    cases ps.mapM q.token <;> rfl

/-- A piece that denotes a character of the code is one. -/
theorem of_token_code {p : Piece} {c : Char} (h : q.token p = some (.code c)) : p = .code c := by
  cases p with
  | code d =>
    cases h
    rfl
  | quoted raw =>
    obtain ⟨_, _, hne⟩ := Option.map_eq_some_iff.mp h
    cases hne

/-- A piece that denotes a literal is one. -/
theorem of_token_literal {p : Piece} {v : List Char} (h : q.token p = some (.literal v)) :
    ∃ raw, p = .quoted raw ∧ q.denotes raw = some v := by
  cases p with
  | code d => cases h
  | quoted raw =>
    obtain ⟨_, hraw, heq⟩ := Option.map_eq_some_iff.mp h
    cases heq
    exact ⟨raw, rfl, hraw⟩

/-- Pieces that denote code and one literal are code and one literal. -/
theorem of_mapM_token {code v : List Char} {ps : List Piece}
    (h : ps.mapM q.token = some (code.map .code ++ [.literal v])) :
    ∃ raw, ps = code.map .code ++ [.quoted raw] ∧ q.denotes raw = some v := by
  induction code generalizing ps with
  | nil =>
    cases ps with
    | nil => cases h
    | cons p ps =>
      simp only [List.mapM_cons, Option.bind_eq_bind, Option.bind_eq_some_iff, Option.pure_def,
        Option.some.injEq] at h
      obtain ⟨t, hp, ts, hps, heq⟩ := h
      cases heq
      -- the last piece is the quoted one
      obtain ⟨raw, rfl, hraw⟩ := q.of_token_literal hp
      cases ps with
      | nil => exact ⟨raw, rfl, hraw⟩
      | cons p ps => simp [Option.bind_eq_some_iff] at hps
  | cons c code ih =>
    cases ps with
    | nil => cases h
    | cons p ps =>
      simp only [List.mapM_cons, Option.bind_eq_bind, Option.bind_eq_some_iff, Option.pure_def,
        Option.some.injEq] at h
      obtain ⟨t, hp, ts, hps, heq⟩ := h
      cases heq
      obtain ⟨raw, rfl, hraw⟩ := ih hps
      rw [q.of_token_code hp]
      exact ⟨raw, rfl, hraw⟩

/-- **A literal that is written without escaping anything denotes its text, and nothing is
left after it, exactly when the text contains neither the quote nor the escape mark.** -/
theorem tokens_quote_iff (code v : List Char) :
    q.tokens (code ++ quote v) = some (code.map .code ++ [.literal v]) ↔
      '\'' ∉ code ∧ '\'' ∉ v ∧ q.escaping.mark ∉ v := by
  constructor
  · intro h
    obtain ⟨ps, hps, hmap⟩ := Option.bind_eq_some_iff.mp h
    obtain ⟨raw, rfl, hraw⟩ := q.of_mapM_token hmap
    have hcode : '\'' ∉ code := fun hmem =>
      code_ne_quote hps (List.mem_append_left _ (List.mem_map_of_mem hmem))
    have htext := text_pieces hps
    have heq : raw = v := by
      simpa [Piece.text, Mode.text, quote, List.flatMap_map] using htext
    subst heq
    have hm : q.escaping.mark ∉ raw := fun hmem => q.escaped raw hmem hraw
    rw [pieces_code_append _ hcode] at hps
    obtain ⟨rest, hrest, hsplit⟩ := Option.map_eq_some_iff.mp hps
    rw [List.append_cancel_left hsplit] at hrest
    exact ⟨hcode, no_quote_of_pieces_quote hm hrest, hm⟩
  · rintro ⟨hcode, hq, hm⟩
    rw [tokens, pieces_code_append _ hcode, pieces_quote _ hq hm, Option.map_some,
      Option.bind_some, mapM_token_code]
    simp [token, q.plain v hm]

end Quoting

/-! ### Backslashes -/

/-- Read every backslash with the character after it as that character. -/
def unescape : List Char → Option (List Char)
  | [] => some []
  | [c] => if c = '\\' then none else some [c]
  | c :: d :: cs =>
    if c = '\\' then (unescape cs).map (d :: ·) else (unescape (d :: cs)).map (c :: ·)

theorem unescape_plain (raw : List Char) (h : '\\' ∉ raw) : unescape raw = some raw := by
  induction raw using unescape.induct with
  | case1 => rfl
  | case2 => simp at h
  | case3 c hc => simp [unescape, hc]
  | case4 d cs ih => simp at h
  | case5 c d cs hc ih =>
    simp only [List.mem_cons, not_or] at h ih
    simp [unescape, hc, ih h.2]

/-- Without its backslashes a text is shorter. -/
theorem length_unescape {raw v : List Char} (h : unescape raw = some v) :
    v.length ≤ raw.length ∧ ('\\' ∈ raw → v.length < raw.length) := by
  induction raw using unescape.induct generalizing v with
  | case1 =>
    cases h
    simp
  | case2 => simp [unescape] at h
  | case3 c hc =>
    simp only [unescape, if_neg hc] at h
    cases h
    simpa using Ne.symm hc
  | case4 d cs ih =>
    -- a backslash and the character that it escapes give one character
    simp only [unescape, if_true, Option.map_eq_some_iff] at h
    obtain ⟨w, hw, rfl⟩ := h
    have hle := (ih hw).1
    simp only [List.length_cons]
    omega
  | case5 c d cs hc ih =>
    simp only [unescape, if_neg hc, Option.map_eq_some_iff] at h
    obtain ⟨w, hw, rfl⟩ := h
    obtain ⟨hle, hlt⟩ := ih hw
    simp only [List.length_cons] at hle hlt ⊢
    refine ⟨by omega, fun hmem => ?_⟩
    have := hlt ((List.mem_cons.mp hmem).resolve_left (Ne.symm hc))
    omega

/-- Literals in which a backslash stands before each quote and backslash -/
def Quoting.backslash : Quoting where
  escaping := .backslash
  denotes := unescape
  plain := unescape_plain
  escaped _ hmem h := Nat.lt_irrefl _ ((length_unescape h).2 hmem)

end SensorNet.QuotedText
