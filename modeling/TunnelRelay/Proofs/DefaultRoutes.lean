import TunnelRelay.Host.DefaultInterface
/-!
# The device of the default route

The words and the lines of a text are stated as they stand in it: `HasWords` and `HasLines` put a
text together from its pieces and what is between them, and each text has exactly one such layout
(`words_eq_iff`, `lines_eq_iff`). Over layouts, the device of the default route is the word after
the first `dev` of the first line in which a word follows it; a line in which none does is passed
over (`defaultInterface?_lawful`).
-/

namespace TunnelRelay.Text

/-! ## Words -/

/-- A text with its words: blanks may stand around them, and some stand between any two. -/
inductive HasWords : List Char → List (List Char) → Prop
  | blank {cs : List Char} (h : ∀ c ∈ cs, isBlank c = true) : HasWords cs []
  | word {gap w rest : List Char} {ws : List (List Char)} (hgap : ∀ c ∈ gap, isBlank c = true)
    (hne : w ≠ []) (hw : ∀ c ∈ w, isBlank c = false) (hend : ∀ c ∈ rest.head?, isBlank c = true)
    (h : HasWords rest ws) : HasWords (gap ++ (w ++ rest)) (w :: ws)

section
variable {cs gap w rest : List Char} {ws : List (List Char)}

theorem HasWords.cons_blank {c : Char} (hc : isBlank c = true) (h : HasWords cs ws) :
    HasWords (c :: cs) ws := by
  cases h with
  | blank h => exact .blank (List.forall_mem_cons.2 ⟨hc, h⟩)
  | word hgap hne hw hend h => exact .word (List.forall_mem_cons.2 ⟨hc, hgap⟩) hne hw hend h

/-- A word is not empty and holds no blank. -/
theorem HasWords.mem (h : HasWords cs ws) (hw : w ∈ ws) : w ≠ [] ∧ ∀ c ∈ w, isBlank c = false := by
  induction h with
  | blank _ => cases hw
  | word _ hne hw' _ _ ih =>
    rcases List.mem_cons.1 hw with rfl | hw
    · exact ⟨hne, hw'⟩
    · exact ih hw

theorem wordsAfter_gap (hgap : ∀ c ∈ gap, isBlank c = true) (cs : List Char) :
    wordsAfter [] (gap ++ cs) = wordsAfter [] cs := by
  induction gap with
  | nil => rfl
  | cons c gap ih =>
    rw [List.forall_mem_cons] at hgap
    simp [wordsAfter, hgap.1, ih hgap.2]

theorem wordsAfter_append (hw : ∀ c ∈ w, isBlank c = false) (word rest : List Char) :
    wordsAfter word (w ++ rest) = wordsAfter (w.reverse ++ word) rest := by
  induction w generalizing word with
  | nil => rfl
  | cons c w ih =>
    rw [List.forall_mem_cons] at hw
    simp [wordsAfter, hw.1, ih hw.2]

/-- A word ends at a blank or at the end of the text. -/
theorem wordsAfter_end {word : List Char} (hne : word ≠ [])
    (hend : ∀ c ∈ rest.head?, isBlank c = true) :
    wordsAfter word rest = word.reverse :: wordsAfter [] rest := by
  cases rest with
  | nil => simp [wordsAfter, hne]
  | cons c rest => simp [wordsAfter, hend c rfl, hne]

theorem words_of_hasWords (h : HasWords cs ws) : words cs = ws := by
  induction h with
  | blank h => simpa [words, wordsAfter] using wordsAfter_gap h []
  | @word gap w rest ws hgap hne hw hend _ ih =>
    have hne' : w.reverse ≠ [] := by simpa using hne
    rw [words, wordsAfter_gap hgap, wordsAfter_append hw, List.append_nil,
      wordsAfter_end hne' hend, List.reverse_reverse]
    exact congrArg _ ih

/-- The reader of words in the middle of a word, which may be empty. -/
theorem hasWords_wordsAfter (word : List Char) (hword : ∀ c ∈ word, isBlank c = false)
    (cs : List Char) : HasWords (word.reverse ++ cs) (wordsAfter word cs) := by
  have hreverse {word : List Char} (hword : ∀ c ∈ word, isBlank c = false) :
      ∀ c ∈ word.reverse, isBlank c = false := fun c hc => hword c (List.mem_reverse.1 hc)
  induction cs generalizing word with
  | nil =>
    have hend : HasWords [] [] := .blank nofun
    by_cases hne : word = []
    · simpa [wordsAfter, hne] using hend
    · have hlast : HasWords ([] ++ (word.reverse ++ [])) [word.reverse] :=
        .word nofun (by simpa using hne) (hreverse hword) nofun hend
      simpa [wordsAfter, hne] using hlast
  | cons c cs ih =>
    cases hc : isBlank c with
    | false =>
      have hnext := ih (c :: word) (List.forall_mem_cons.2 ⟨hc, hword⟩)
      simpa [wordsAfter, hc] using hnext
    | true =>
      have hrest : HasWords (c :: cs) (wordsAfter [] cs) := (ih [] nofun).cons_blank hc
      by_cases hne : word = []
      · simpa [wordsAfter, hc, hne] using hrest
      · have hended : HasWords ([] ++ (word.reverse ++ c :: cs))
            (word.reverse :: wordsAfter [] cs) :=
          .word nofun (by simpa using hne) (hreverse hword) (by simpa using hc) hrest
        simpa [wordsAfter, hc, hne] using hended

/-- Each text has one layout of words. -/
theorem words_eq_iff : words cs = ws ↔ HasWords cs ws :=
  ⟨fun h => h ▸ hasWords_wordsAfter [] nofun cs, words_of_hasWords⟩

/-- A blank at the end of a text is no part of its words. -/
theorem words_concat {c : Char} (hc : isBlank c = true) (cs : List Char) :
    words (cs ++ [c]) = words cs := by
  have hall : ∀ word, wordsAfter word (cs ++ [c]) = wordsAfter word cs := by
    induction cs with
    | nil => intro word; by_cases hne : word = [] <;> simp [wordsAfter, hc, hne]
    | cons d cs ih =>
      intro word
      simp only [List.cons_append, wordsAfter, ih]
  exact hall []

end

/-! ## Lines -/

/-- A text with its lines. A line ends with a line feed, which may have a carriage return in front of
it, or at the end of the text. -/
inductive HasLines : List Char → List (List Char) → Prop
  | nil : HasLines [] []
  | last {l : List Char} (hne : l ≠ []) (hl : '\n' ∉ l) : HasLines l [l]
  | feed {l rest : List Char} {ls : List (List Char)} (hl : '\n' ∉ l) (hr : l.getLast? ≠ some '\r')
    (h : HasLines rest ls) : HasLines (l ++ '\n' :: rest) (l :: ls)
  | returnFeed {l rest : List Char} {ls : List (List Char)} (hl : '\n' ∉ l) (h : HasLines rest ls) :
    HasLines (l ++ '\r' :: '\n' :: rest) (l :: ls)

section
variable {cs l rest : List Char} {ls : List (List Char)}

theorem linesAfter_append (hl : '\n' ∉ l) (line rest : List Char) :
    linesAfter line (l ++ rest) = linesAfter (l.reverse ++ line) rest := by
  induction l generalizing line with
  | nil => rfl
  | cons c l ih =>
    rw [List.mem_cons, not_or] at hl
    have hc : c ≠ '\n' := Ne.symm hl.1
    simp [linesAfter, ih hl.2]

theorem lines_append_feed (hl : '\n' ∉ l) (rest : List Char) :
    lines (l ++ '\n' :: rest) = endLine l.reverse :: lines rest := by
  rw [lines, linesAfter_append hl, List.append_nil]
  rfl

theorem endLine_of_ne {line : List Char} (h : line.head? ≠ some '\r') :
    endLine line = line.reverse := by
  unfold endLine
  split
  · exact absurd rfl h
  · rfl

theorem lines_of_hasLines (h : HasLines cs ls) : lines cs = ls := by
  induction h with
  | nil => rfl
  | last hne hl =>
    have hlast := linesAfter_append hl [] []
    rw [List.append_nil, List.append_nil] at hlast
    simpa [lines, linesAfter, hne] using hlast
  | feed hl hr _ ih =>
    rw [lines_append_feed hl, ih, endLine_of_ne (by simpa using hr), List.reverse_reverse]
  | @returnFeed l rest _ hl _ ih =>
    have hreturn : '\n' ∉ l ++ ['\r'] := by simpa using hl
    have hlines := lines_append_feed hreturn rest
    simpa [endLine, ih] using hlines

/-- The reader of lines in the middle of a line, which may be empty. -/
theorem hasLines_linesAfter (line : List Char) (hline : '\n' ∉ line) (cs : List Char) :
    HasLines (line.reverse ++ cs) (linesAfter line cs) := by
  induction cs generalizing line with
  | nil =>
    by_cases hne : line = []
    · simpa [linesAfter, hne] using HasLines.nil
    · have hlast : HasLines line.reverse [line.reverse] :=
        .last (by simpa using hne) (by simpa using hline)
      simpa [linesAfter, hne] using hlast
  | cons c cs ih =>
    by_cases hc : c = '\n'
    · subst hc
      have hrest : HasLines cs (linesAfter [] cs) := ih [] nofun
      by_cases hr : line.head? = some '\r'
      · obtain ⟨l, rfl⟩ := List.head?_eq_some_iff.1 hr
        have hended : HasLines (l.reverse ++ '\r' :: '\n' :: cs) (l.reverse :: linesAfter [] cs) :=
          .returnFeed (by simpa using hline) hrest
        simpa [linesAfter, endLine] using hended
      · rw [linesAfter, endLine_of_ne hr]
        exact .feed (by simpa using hline) (by simpa using hr) hrest
    · have hnext := ih (c :: line) (by simpa [Ne.symm hc] using hline)
      simpa [linesAfter, hc] using hnext

/-- Each text has one layout of lines. -/
theorem lines_eq_iff : lines cs = ls ↔ HasLines cs ls :=
  ⟨fun h => h ▸ hasLines_linesAfter [] nofun cs, lines_of_hasLines⟩

end

end TunnelRelay.Text

namespace TunnelRelay.Host

open Text

/-! ## The device -/

/-- The word that announces a device. -/
def devWord : List Char := ['d', 'e', 'v']

/-- In the line, the first word `dev` is followed by the word `d`. -/
def NamesDevice (line d : List Char) : Prop :=
  ∃ pre post, HasWords line (pre ++ devWord :: d :: post) ∧ devWord ∉ pre

section
variable {line d : List Char} {ws pre post : List (List Char)}

theorem deviceOfWords_cons (w : List Char) (ws : List (List Char)) :
    deviceOfWords (w :: ws) = if w = devWord then ws.head? else deviceOfWords ws := rfl

/-- The first `dev` decides, also where it is the last word. -/
theorem deviceOfWords_append (hpre : devWord ∉ pre) :
    deviceOfWords (pre ++ devWord :: post) = post.head? := by
  induction pre with
  | nil => exact if_pos rfl
  | cons w pre ih =>
    rw [List.mem_cons, not_or] at hpre
    rw [List.cons_append, deviceOfWords_cons, if_neg (Ne.symm hpre.1), ih hpre.2]

theorem deviceOfWords_of_notMem (h : devWord ∉ ws) : deviceOfWords ws = none := by
  induction ws with
  | nil => rfl
  | cons w ws ih =>
    rw [List.mem_cons, not_or] at h
    rw [deviceOfWords_cons, if_neg (Ne.symm h.1), ih h.2]

theorem deviceOfWords_eq_some_iff : deviceOfWords ws = some d ↔
    ∃ pre post, ws = pre ++ devWord :: d :: post ∧ devWord ∉ pre := by
  constructor
  · intro h
    by_cases hdev : devWord ∈ ws
    · obtain ⟨pre, post, rfl, hpre⟩ := List.eq_append_cons_of_mem hdev
      rw [deviceOfWords_append hpre] at h
      obtain ⟨post, rfl⟩ := List.head?_eq_some_iff.1 h
      exact ⟨pre, post, rfl, hpre⟩
    · rw [deviceOfWords_of_notMem hdev] at h
      cases h
  · rintro ⟨pre, post, rfl, hpre⟩
    exact deviceOfWords_append hpre

theorem deviceOfWords_eq_none_iff : deviceOfWords ws = none ↔
    devWord ∉ ws ∨ ∃ pre, ws = pre ++ [devWord] ∧ devWord ∉ pre := by
  constructor
  · intro h
    by_cases hdev : devWord ∈ ws
    · obtain ⟨pre, post, rfl, hpre⟩ := List.eq_append_cons_of_mem hdev
      rw [deviceOfWords_append hpre, List.head?_eq_none_iff] at h
      exact .inr ⟨pre, by rw [h], hpre⟩
    · exact .inl hdev
  · rintro (h | ⟨pre, rfl, hpre⟩)
    · exact deviceOfWords_of_notMem h
    · exact deviceOfWords_append hpre

theorem deviceOfWords_words_iff : deviceOfWords (words line) = some d ↔ NamesDevice line d := by
  simp only [deviceOfWords_eq_some_iff, words_eq_iff, NamesDevice]

theorem deviceOfWords_words_eq_none_iff :
    deviceOfWords (words line) = none ↔ ∀ d, ¬ NamesDevice line d := by
  simp only [Option.eq_none_iff_forall_ne_some, ne_eq, deviceOfWords_words_iff]

/-- A line that names no device is passed over, whether it ends with a line feed alone or not. -/
theorem defaultInterface?_append_feed (hfeed : '\n' ∉ line)
    (hnone : deviceOfWords (words line) = none) (routes : List Char) :
    defaultInterface? (line ++ '\n' :: routes) = defaultInterface? routes := by
  -- a carriage return at the end of the line is a blank
  have hwords : words (endLine line.reverse) = words line := by
    by_cases hr : line.getLast? = some '\r'
    · obtain ⟨l, rfl⟩ := List.getLast?_eq_some_iff.1 hr
      rw [words_concat rfl]
      simp [endLine]
    · rw [endLine_of_ne (by simpa using hr), List.reverse_reverse]
  rw [defaultInterface?, lines_append_feed hfeed, List.findSome?_cons, hwords, hnone]
  rfl

end

/-- What is found in a text of routes. -/
structure Lawful (routes : List Char) : Prop where
  /-- The device that the first line with one names. -/
  some_iff : ∀ d, defaultInterface? routes = some d ↔ ∃ before line after,
    HasLines routes (before ++ line :: after) ∧ NamesDevice line d ∧
      ∀ l ∈ before, ∀ e, ¬ NamesDevice l e
  /-- A line names none exactly if it has no `dev`, or its first one is its last word. -/
  unnamed_iff : ∀ line ws, HasWords line ws → ((∀ d, ¬ NamesDevice line d) ↔
    devWord ∉ ws ∨ ∃ pre, ws = pre ++ [devWord] ∧ devWord ∉ pre)
  /-- Such a line hides nothing. -/
  skips : ∀ line, '\n' ∉ line → (∀ d, ¬ NamesDevice line d) →
    defaultInterface? (line ++ '\n' :: routes) = defaultInterface? routes
  /-- The device is a word. -/
  isWord : ∀ d, defaultInterface? routes = some d → d ≠ [] ∧ ∀ c ∈ d, isBlank c = false

/-- The device of the default route, in any layout of lines and words. -/
theorem defaultInterface?_lawful (routes : List Char) : Lawful routes := by
  have hsome : ∀ d, defaultInterface? routes = some d ↔ ∃ before line after,
      HasLines routes (before ++ line :: after) ∧ NamesDevice line d ∧
        ∀ l ∈ before, ∀ e, ¬ NamesDevice l e := by
    intro d
    simp only [defaultInterface?, List.findSome?_eq_some_iff, lines_eq_iff, deviceOfWords_words_iff,
      deviceOfWords_words_eq_none_iff]
  refine ⟨hsome, fun line ws hws => ?_, fun line hfeed hnone => ?_, fun d hd => ?_⟩
  · rw [← deviceOfWords_words_eq_none_iff, words_of_hasWords hws, deviceOfWords_eq_none_iff]
  · exact defaultInterface?_append_feed hfeed (deviceOfWords_words_eq_none_iff.2 hnone) routes
  · obtain ⟨_, _, _, -, ⟨pre, post, hwords, -⟩, -⟩ := (hsome d).1 hd
    exact hwords.mem (by simp)

/-- A line that ends with `dev` gives up on itself only. -/
example : defaultInterface? "default dev\r\n1.1.1.1\u00a0dev\teth0 dev x".toList =
    some "eth0".toList := by
  decide

end TunnelRelay.Host
