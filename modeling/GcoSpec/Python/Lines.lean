import GcoSpec.Python.Text

/-!
# Lines of a text

`str.splitlines` ends a line at more characters than the newline, and a file that is read in text
mode has had its line ends translated before.

* `lines_append_of_terminated`: lines that have been ended do not depend on what follows;
* `lines_append_of_open`: a line that has not been ended goes on.
-/

namespace Python

/-- The characters `str.splitlines` ends a line at. -/
def isLineBoundary (c : Char) : Bool :=
  let n := c.toNat
  (10 ≤ n && n ≤ 13) || (28 ≤ n && n ≤ 30) || n == 0x85 || n == 0x2028 || n == 0x2029

/-- The lines of a text, when the characters of `w` (last first) have been read of the first. -/
def lines (w : List Char) : List Char → List (List Char)
  | [] => if w = [] then [] else [w.reverse]
  | '\r' :: '\n' :: cs => w.reverse :: lines [] cs
  | c :: cs => if isLineBoundary c then w.reverse :: lines [] cs else lines (c :: w) cs

/-- `s.splitlines()`. -/
def splitlines (s : String) : List String := (lines [] s.toList).map String.ofList

/-- The translation of `newline=None`: a file spells a newline `\r\n`, `\r` or `\n`. -/
def newlines : List Char → List Char
  | [] => []
  | '\r' :: '\n' :: cs => '\n' :: newlines cs
  | c :: cs => (if c = '\r' then '\n' else c) :: newlines cs

/-- The text `read_text` returns of a file with these contents. -/
def readText (contents : String) : String := String.ofList (newlines contents.toList)

/-- The text ends a line, or is empty. -/
def Terminated (cs : List Char) : Prop := ∀ c ∈ cs.getLast?, isLineBoundary c = true

/-- The lines of a text that have been ended. -/
def endedLines (cs : List Char) : List Char := cs.rdropWhile fun c => !isLineBoundary c

/-- What follows the last line end of a text. -/
def openLine (cs : List Char) : List Char := cs.rtakeWhile fun c => !isLineBoundary c

/-! ### Translating -/

theorem cr_notMem_newlines (cs : List Char) : '\r' ∉ newlines cs := by
  fun_induction newlines cs with
  | case1 => simp
  | case2 cs ih => simpa using ih
  | case3 c cs hcrlf ih =>
    by_cases hc : c = '\r'
    · simpa [hc] using ih
    · simp [hc, Ne.symm hc, ih]

theorem newlines_of_notMem {cs : List Char} (h : '\r' ∉ cs) : newlines cs = cs := by
  induction cs with
  | nil => rfl
  | cons c cs ih =>
    obtain ⟨hc, hcs⟩ := List.ne_and_not_mem_of_not_mem_cons h
    rw [newlines.eq_3 _ _ (by rintro _ rfl; exact fun _ => hc rfl), if_neg hc.symm, ih hcs]

/-- A file is translated in two parts unless a `\r\n` is cut. -/
theorem newlines_append (as : List Char) {bs : List Char} (h : bs.head? ≠ some '\n') :
    newlines (as ++ bs) = newlines as ++ newlines bs := by
  fun_induction newlines as with
  | case1 => rfl
  | case2 cs ih => rw [List.cons_append, List.cons_append, newlines, ih, List.cons_append]
  | case3 c cs hcrlf ih =>
    rw [List.cons_append, newlines.eq_3, ih, List.cons_append]
    rintro ds rfl hds
    cases cs with
    | nil => exact h (by rw [show bs = '\n' :: ds from hds, List.head?_cons])
    | cons d cs => exact hcrlf cs rfl (by rw [(List.cons.inj hds).1])

/-! ### Splitting -/

theorem lines_newline (w cs : List Char) : lines w ('\n' :: cs) = w.reverse :: lines [] cs := rfl

/-- Characters that end no line are read into the line. -/
theorem lines_append_of_open {l : List Char} (h : ∀ c ∈ l, isLineBoundary c = false)
    (w rest : List Char) : lines w (l ++ rest) = lines (l.reverse ++ w) rest := by
  induction l generalizing w with
  | nil => rfl
  | cons c l ih =>
    obtain ⟨hc, hl⟩ := List.forall_mem_cons.1 h
    have hcr : c ≠ '\r' := by
      rintro rfl
      exact absurd hc (by decide)
    rw [List.cons_append, lines.eq_3 _ _ _ (by rintro _ rfl; exact fun _ => hcr rfl), hc,
      if_neg (by decide), ih hl, List.reverse_cons, List.append_assoc, List.singleton_append]

/-- At a boundary the line read so far is complete, and the others are lines of the rest. -/
theorem mem_of_mem_boundary {w d cs l : List Char}
    (ih : l ∈ lines [] cs → ∀ c ∈ l, c ∈ [].reverse ++ cs) (h : l ∈ w.reverse :: lines [] cs) :
    ∀ c ∈ l, c ∈ w.reverse ++ (d ++ cs) := by
  intro c hc
  rcases List.mem_cons.1 h with rfl | hrest
  · exact List.mem_append_left _ hc
  · exact List.mem_append_right _ (List.mem_append_right _ (ih hrest c hc))

/-- Lines hold only characters of the text. -/
theorem mem_of_mem_lines {w cs l : List Char} (h : l ∈ lines w cs) :
    ∀ c ∈ l, c ∈ w.reverse ++ cs := by
  fun_induction lines w cs with
  | case1 => cases h
  | case2 w hw =>
    rw [List.mem_singleton] at h
    simp [h]
  | case3 w cs ih => exact mem_of_mem_boundary (d := ['\r', '\n']) ih h
  | case4 w d cs hcrlf hboundary ih => exact mem_of_mem_boundary (d := [d]) ih h
  | case5 w d cs hcrlf hboundary ih =>
    intro c hc
    have hmem := ih h c hc
    simpa using hmem

/-- The lines up to a boundary are complete. -/
theorem lines_append_boundary {l : List Char} (h : '\r' ∉ l) {b : Char} (hb : b ≠ '\r')
    (hboundary : isLineBoundary b = true) (w rest : List Char) :
    lines w (l ++ b :: rest) = lines w (l ++ [b]) ++ lines [] rest := by
  induction l generalizing w with
  | nil =>
    have hlast : ∀ cs, lines w (b :: cs) = w.reverse :: lines [] cs := by
      intro cs
      rw [lines.eq_3 _ _ _ (by rintro _ rfl; exact fun _ => hb rfl), if_pos hboundary]
    rw [List.nil_append, List.nil_append, hlast, hlast]
    rfl
  | cons c l ih =>
    obtain ⟨hc, hl⟩ := List.ne_and_not_mem_of_not_mem_cons h
    have hstep : ∀ cs, lines w (c :: cs) =
        if isLineBoundary c then w.reverse :: lines [] cs else lines (c :: w) cs :=
      fun cs => lines.eq_3 _ _ _ (by rintro _ rfl; exact fun _ => hc rfl)
    rw [List.cons_append, List.cons_append, hstep, hstep, ih hl, ih hl]
    split_ifs <;> rfl

/-- Lines that have been ended do not depend on what follows. -/
theorem lines_append_of_terminated {as : List Char} (hcr : '\r' ∉ as) (h : Terminated as)
    (rest : List Char) : lines [] (as ++ rest) = lines [] as ++ lines [] rest := by
  rcases List.eq_nil_or_concat' as with rfl | ⟨l, b, rfl⟩
  · rfl
  · have hb : isLineBoundary b = true := h b (by rw [List.getLast?_concat]; rfl)
    simp only [List.mem_append, List.mem_singleton, not_or] at hcr
    rw [List.append_assoc, List.singleton_append,
      lines_append_boundary hcr.1 (Ne.symm hcr.2) hb]

/-! ### The line at the end -/

theorem endedLines_append_openLine (cs : List Char) : endedLines cs ++ openLine cs = cs := by
  rw [endedLines, openLine, List.rdropWhile, List.rtakeWhile, ← List.reverse_append,
    List.takeWhile_append_dropWhile, List.reverse_reverse]

theorem terminated_endedLines (cs : List Char) : Terminated (endedLines cs) := by
  intro c hc
  by_cases hne : endedLines cs = []
  · rw [hne] at hc
    cases hc
  · rw [List.getLast?_eq_some_getLast hne] at hc
    have hlast := List.rdropWhile_last_not (fun c => !isLineBoundary c) cs hne
    cases hc
    simpa [endedLines] using hlast

theorem isLineBoundary_of_mem_openLine {cs : List Char} :
    ∀ c ∈ openLine cs, isLineBoundary c = false := by
  intro c hc
  simpa using List.mem_rtakeWhile_imp hc

theorem cr_notMem_of_open {l : List Char} (h : ∀ c ∈ l, isLineBoundary c = false) : '\r' ∉ l := by
  intro hcr
  exact absurd (h '\r' hcr) (by decide)

theorem openLine_of_open {l : List Char} (h : ∀ c ∈ l, isLineBoundary c = false) :
    openLine l = l := by
  rw [openLine, List.rtakeWhile_eq_self_iff]
  exact fun c hc => by rw [h c hc]; rfl

theorem openLine_concat (l : List Char) {b : Char} (h : isLineBoundary b = true) :
    openLine (l ++ [b]) = [] := by
  rw [openLine, List.rtakeWhile_concat_neg _ _ _ (by simp [h])]

/-- What has been ended is split on its own; the open line goes on. -/
theorem lines_append {cs : List Char} (hcr : '\r' ∉ cs) (rest : List Char) :
    lines [] (cs ++ rest) = lines [] (endedLines cs) ++ lines [] (openLine cs ++ rest) := by
  have hended : '\r' ∉ endedLines cs := fun h => hcr (by
    rw [← endedLines_append_openLine cs]
    exact List.mem_append_left _ h)
  rw [← lines_append_of_terminated hended (terminated_endedLines cs), ← List.append_assoc,
    endedLines_append_openLine]

/-- The open line is a line unless it is empty. -/
theorem lines_of_open {l : List Char} (h : ∀ c ∈ l, isLineBoundary c = false) :
    lines [] l = if l = [] then [] else [l] := by
  have hread := lines_append_of_open h [] []
  rw [List.append_nil, List.append_nil] at hread
  rw [hread, lines]
  simp

/-! ### Whole lines -/

/-- Joining lines and ending the last is ending each. -/
theorem intercalate_newline {ls : List (List Char)} (h : ls ≠ []) :
    ['\n'].intercalate ls ++ ['\n'] = ls.flatMap fun l => l ++ ['\n'] := by
  induction ls with
  | nil => exact absurd rfl h
  | cons l ls ih =>
    by_cases hls : ls = []
    · subst hls
      simp
    · rw [List.intercalate_cons_of_ne_nil hls, List.append_assoc, ih hls, List.flatMap_cons]

/-- A whole line, and the lines after it. -/
theorem lines_line {l : List Char} (h : ∀ c ∈ l, isLineBoundary c = false) (rest : List Char) :
    lines [] (l ++ '\n' :: rest) = l :: lines [] rest := by
  rw [lines_append_of_open h, List.append_nil, lines_newline, List.reverse_reverse]

theorem lines_flatMap {α : Type*} {text : α → List Char} {as : List α}
    (h : ∀ a ∈ as, ∀ c ∈ text a, isLineBoundary c = false) :
    lines [] (as.flatMap fun a => text a ++ ['\n']) = as.map text := by
  induction as with
  | nil => rfl
  | cons a as ih =>
    obtain ⟨ha, has⟩ := List.forall_mem_cons.1 h
    rw [List.flatMap_cons, List.append_assoc, List.singleton_append, lines_line ha, ih has,
      List.map_cons]

end Python
