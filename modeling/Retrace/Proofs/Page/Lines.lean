import Mathlib.Data.List.Nodup
import Retrace.Proofs.Page.Scrolling

/-!
The lines of a source file.

A file is cut at its line feeds and its lines are numbered.  Nothing is lost by that: the lines give
the text back, apart from carriage returns that belonged to a line end and from a line feed that
ended the last line.

* `unifyBreaks`: a text in which every line ends with a line feed alone; `unifyBreaks_append`,
  `unifyBreaks_append_pair` and `unifyBreaks_append_lineFeed` take it apart;
* `dropFinalBreak`, `lineCount`: what is left out at the end, and how many lines there are;
* `intercalate_linesFrom`, `length_linesFrom`, `not_mem_of_mem_linesFrom`: the lines from the middle
  of a text on;
* `SourceFile.numbers_numberedLines`, `SourceFile.toList_joined`: the numbers, and the lines put
  together again; `Viewer.marked_listedRows`: the marked rows of a page;
* `SourceFile.faithful_numberedLines`: the lines of a file, and which of them a page marks.
-/

namespace Retrace

/-! ### Line ends -/

/-- The text with a line feed alone in place of each carriage return with a line feed behind it. -/
def unifyBreaks : List Char → List Char
  | [] => []
  | c :: rest =>
    if c = '\r' ∧ rest.head? = some '\n' then unifyBreaks rest else c :: unifyBreaks rest

/-- The text without a line feed at its end. -/
def dropFinalBreak (text : List Char) : List Char :=
  if text.getLast? = some '\n' then text.dropLast else text

/-- How many lines a text has: each line feed ends one, and what is behind the last is one, too. -/
def lineCount (text : List Char) : Nat :=
  text.count '\n' + if text = [] ∨ text.getLast? = some '\n' then 0 else 1

section

variable {xs ys : List Char}

@[simp] lemma unifyBreaks_nil : unifyBreaks [] = [] := rfl

lemma unifyBreaks_cons (c : Char) (xs : List Char) : unifyBreaks (c :: xs)
    = if c = '\r' ∧ xs.head? = some '\n' then unifyBreaks xs else c :: unifyBreaks xs := rfl

lemma unifyBreaks_of_not_mem (h : '\n' ∉ xs) : unifyBreaks xs = xs := by
  induction xs with
  | nil => rfl
  | cons c xs ih =>
      have hxs : '\n' ∉ xs := List.not_mem_of_not_mem_cons h
      have hhead : xs.head? ≠ some '\n' := fun hhead => hxs (List.mem_of_head? hhead)
      rw [unifyBreaks_cons, if_neg fun hpair => hhead hpair.2, ih hxs]

lemma unifyBreaks_eq_nil_iff : unifyBreaks xs = [] ↔ xs = [] := by
  induction xs with
  | nil => exact iff_of_true rfl rfl
  | cons c xs ih =>
      rw [unifyBreaks_cons]
      split
      · case isTrue hpair =>
          have hxs : xs ≠ [] := fun hnil => nomatch hnil ▸ hpair.2
          exact iff_of_false (fun hnil => hxs (ih.1 hnil)) (List.cons_ne_nil c xs)
      · exact iff_of_false (List.cons_ne_nil _ _) (List.cons_ne_nil c xs)

/-- A text can be taken apart wherever the second part does not begin with a line feed. -/
lemma unifyBreaks_append (h : ys.head? ≠ some '\n') :
    unifyBreaks (xs ++ ys) = unifyBreaks xs ++ unifyBreaks ys := by
  induction xs with
  | nil => rfl
  | cons c xs ih =>
      have hhead : (xs ++ ys).head? = some '\n' ↔ xs.head? = some '\n' := by
        cases xs with
        | nil => exact iff_of_false h nofun
        | cons _ _ => exact Iff.rfl
      rw [List.cons_append, unifyBreaks_cons, unifyBreaks_cons, ih]
      simp only [hhead]
      split <;> rfl

/-- A carriage return in front of a line feed is dropped. -/
lemma unifyBreaks_append_pair (xs ys : List Char) :
    unifyBreaks (xs ++ '\r' :: '\n' :: ys) = unifyBreaks xs ++ '\n' :: unifyBreaks ys := by
  rw [unifyBreaks_append (by simp)]
  simp [unifyBreaks_cons]

/-- A line feed behind anything else stays. -/
lemma unifyBreaks_append_lineFeed (h : xs.getLast? ≠ some '\r') :
    unifyBreaks (xs ++ '\n' :: ys) = unifyBreaks xs ++ '\n' :: unifyBreaks ys := by
  induction xs with
  | nil => simp [unifyBreaks_cons]
  | cons c xs ih =>
      cases xs with
      | nil =>
          have hc : c ≠ '\r' := fun hc => h (congrArg some hc)
          simp [unifyBreaks_cons, hc]
      | cons d xs =>
          rw [List.getLast?_cons_cons] at h
          rw [List.cons_append, unifyBreaks_cons, ih h, unifyBreaks_cons c, List.cons_append,
            List.head?_cons, List.head?_cons]
          split <;> rfl

/-- A carriage return in front of anything else, or of nothing, stays. -/
lemma unifyBreaks_append_return (h : ys.head? ≠ some '\n') :
    unifyBreaks (xs ++ '\r' :: ys) = unifyBreaks xs ++ '\r' :: unifyBreaks ys := by
  rw [unifyBreaks_append (by simp), unifyBreaks_cons, if_neg fun hpair => h hpair.2]

lemma dropFinalBreak_of_not_mem (h : '\n' ∉ xs) : dropFinalBreak xs = xs :=
  if_neg fun hlast => h (List.mem_of_getLast? hlast)

lemma dropFinalBreak_concat (xs : List Char) : dropFinalBreak (xs ++ ['\n']) = xs := by
  rw [dropFinalBreak, if_pos List.getLast?_concat, List.dropLast_concat]

lemma dropFinalBreak_append (h : ys ≠ []) :
    dropFinalBreak (xs ++ ys) = xs ++ dropFinalBreak ys := by
  rw [dropFinalBreak, dropFinalBreak, List.getLast?_append_of_ne_nil xs h,
    List.dropLast_append_of_ne_nil h]
  exact (apply_ite (xs ++ ·) _ _ _).symm

lemma dropFinalBreak_cons {c : Char} (h : c ≠ '\n') :
    dropFinalBreak (c :: ys) = c :: dropFinalBreak ys := by
  cases ys with
  | nil => exact dropFinalBreak_of_not_mem (by simpa using h.symm)
  | cons d ys => exact @dropFinalBreak_append [c] _ (List.cons_ne_nil d ys)

lemma lineCount_of_not_mem (h : '\n' ∉ xs) : lineCount xs = if xs = [] then 0 else 1 := by
  have hlast : xs.getLast? ≠ some '\n' := fun hlast => h (List.mem_of_getLast? hlast)
  rw [lineCount, List.count_eq_zero_of_not_mem h, Nat.zero_add]
  simp [hlast]

lemma lineCount_append_lineFeed (h : '\n' ∉ xs) :
    lineCount (xs ++ '\n' :: ys) = lineCount ys + 1 := by
  have hends : (xs ++ '\n' :: ys = [] ∨ (xs ++ '\n' :: ys).getLast? = some '\n')
      ↔ ys = [] ∨ ys.getLast? = some '\n' := by
    cases ys with
    | nil => simp
    | cons c ys => simp [List.getLast?_cons_cons]
  rw [lineCount, lineCount, List.count_append, List.count_eq_zero_of_not_mem h,
    List.count_cons_self]
  simp only [hends]
  omega

end

/-! ### Cutting a text -/

/-- The line that a line feed ends, given back to front. -/
def closeLine : List Char → List Char
  | '\r' :: before => before.reverse
  | line => line.reverse

section

variable {line : List Char}

lemma closeLine_of_ne {c : Char} (h : c ≠ '\r') (line : List Char) :
    closeLine (c :: line) = (c :: line).reverse := by
  rw [closeLine]
  simpa using h

lemma not_mem_closeLine (h : '\n' ∉ line) : '\n' ∉ closeLine line := by
  cases line with
  | nil => exact h
  | cons c line =>
      by_cases hc : c = '\r'
      · rw [hc, closeLine, List.mem_reverse]
        exact List.not_mem_of_not_mem_cons h
      · rwa [closeLine_of_ne hc, List.mem_reverse]

/-- The line end that belongs to a line becomes a line feed. -/
lemma unifyBreaks_closeLine (h : '\n' ∉ line) (rest : List Char) :
    unifyBreaks (line.reverse ++ '\n' :: rest) = closeLine line ++ '\n' :: unifyBreaks rest := by
  cases line with
  | nil => exact unifyBreaks_append_lineFeed nofun
  | cons c line =>
      by_cases hc : c = '\r'
      · have hline : '\n' ∉ line.reverse := by
          rw [List.mem_reverse]
          exact List.not_mem_of_not_mem_cons h
        rw [hc, List.reverse_cons, List.append_assoc, List.singleton_append,
          unifyBreaks_append_pair, unifyBreaks_of_not_mem hline, closeLine]
      · have hlast : (c :: line).reverse.getLast? ≠ some '\r' := by
          rw [List.getLast?_reverse]
          exact fun hhead => hc (Option.some.inj hhead)
        rw [unifyBreaks_append_lineFeed hlast, closeLine_of_ne hc,
          unifyBreaks_of_not_mem (by rwa [List.mem_reverse])]

lemma linesFrom_eq_nil_iff {rest : List Char} :
    linesFrom line rest = [] ↔ line = [] ∧ rest = [] := by
  fun_induction linesFrom line rest with
  | case1 => exact iff_of_true rfl ⟨rfl, rfl⟩
  | case2 line hline => exact iff_of_false (List.cons_ne_nil _ _) fun hnil => hline hnil.1
  | case3 line rest => exact iff_of_false (List.cons_ne_nil _ _) fun hnil => nomatch hnil.2
  | case4 line c rest hc ih =>
      rw [ih]
      exact iff_of_false (fun hnil => nomatch hnil.1) fun hnil => nomatch hnil.2

/-- The lines with line feeds between them are the text from the current line on. -/
lemma intercalate_linesFrom (h : '\n' ∉ line) (rest : List Char) :
    ['\n'].intercalate (linesFrom line rest)
      = dropFinalBreak (unifyBreaks (line.reverse ++ rest)) := by
  fun_induction linesFrom line rest with
  | case1 => rfl
  | case2 line hline =>
      have hrev : '\n' ∉ line.reverse := by rwa [List.mem_reverse]
      rw [List.intercalate_singleton, List.append_nil, unifyBreaks_of_not_mem hrev,
        dropFinalBreak_of_not_mem hrev]
  | case3 line rest ih =>
      rw [unifyBreaks_closeLine h]
      change ['\n'].intercalate (closeLine line :: linesFrom [] rest) = _
      -- The last line has no line feed behind it, and the text leaves the last line feed out.
      cases rest with
      | nil => exact List.intercalate_singleton.trans (dropFinalBreak_concat _).symm
      | cons c rest =>
          have hlines : linesFrom [] (c :: rest) ≠ [] := fun hnil =>
            nomatch (linesFrom_eq_nil_iff.1 hnil).2
          have hbreaks : unifyBreaks (c :: rest) ≠ [] := fun hnil =>
            nomatch unifyBreaks_eq_nil_iff.1 hnil
          rw [List.intercalate_cons_of_ne_nil hlines, ih List.not_mem_nil,
            List.append_cons _ _ (unifyBreaks (c :: rest)), dropFinalBreak_append hbreaks]
          rfl
  | case4 line c rest hc ih =>
      have hline : '\n' ∉ c :: line :=
        List.not_mem_cons_of_ne_of_not_mem (fun heq => hc heq.symm) h
      rw [ih hline, List.reverse_cons, List.append_assoc, List.singleton_append]

/-- There is a line for each line end, and one for what is behind the last one. -/
lemma length_linesFrom (h : '\n' ∉ line) (rest : List Char) :
    (linesFrom line rest).length = lineCount (line.reverse ++ rest) := by
  have hrev : '\n' ∉ line.reverse := by rwa [List.mem_reverse]
  fun_induction linesFrom line rest with
  | case1 => rfl
  | case2 line hline =>
      have hnil : line.reverse ≠ [] := fun hnil => hline (List.reverse_eq_nil_iff.1 hnil)
      rw [List.append_nil, lineCount_of_not_mem hrev, if_neg hnil]
      rfl
  | case3 line rest ih =>
      rw [lineCount_append_lineFeed hrev, List.length_cons, ih List.not_mem_nil List.not_mem_nil]
      rfl
  | case4 line c rest hc ih =>
      have hline : '\n' ∉ c :: line :=
        List.not_mem_cons_of_ne_of_not_mem (fun heq => hc heq.symm) h
      rw [ih hline (by rwa [List.mem_reverse]), List.reverse_cons, List.append_assoc,
        List.singleton_append]

/-- No line feed is left in a line. -/
lemma not_mem_of_mem_linesFrom {rest one : List Char} (h : '\n' ∉ line)
    (hone : one ∈ linesFrom line rest) : '\n' ∉ one := by
  fun_induction linesFrom line rest with
  | case1 => cases hone
  | case2 line hline =>
      rw [List.mem_singleton.1 hone, List.mem_reverse]
      exact h
  | case3 line rest ih =>
      rcases List.mem_cons.1 hone with rfl | hone
      · exact not_mem_closeLine h
      · exact ih List.not_mem_nil hone
  | case4 line c rest hc ih =>
      exact ih (List.not_mem_cons_of_ne_of_not_mem (fun heq => hc heq.symm) h) hone

end

/-! ### Numbered lines -/

namespace SourceFile

variable (f : SourceFile)

lemma numbers_numberedLines :
    f.numberedLines.map (·.1) = List.range' 1 (lineCount f.content.toList) := by
  have hlength : (splitLines f.content.toList).length = lineCount f.content.toList :=
    length_linesFrom List.not_mem_nil _
  rw [numberedLines, List.map_map, ← hlength]
  exact List.zipIdx_map_snd 1 _

lemma contents_numberedLines :
    f.numberedLines.map (·.2.toList) = splitLines f.content.toList := by
  rw [numberedLines, List.map_map]
  exact (List.map_congr_left fun _ _ => String.toList_ofList).trans (List.zipIdx_map_fst 1 _)

/-- The lines with line feeds between them. -/
def joined : String := "\n".intercalate (f.numberedLines.map (·.2))

lemma toList_joined : f.joined.toList = dropFinalBreak (unifyBreaks f.content.toList) := by
  rw [joined, String.toList_intercalate, List.map_map]
  exact (congrArg (['\n'].intercalate ·) f.contents_numberedLines).trans
    (intercalate_linesFrom List.not_mem_nil _)

end SourceFile

/-! ### Rows -/

/-- The rows of the listings on a page. -/
def listedRows (page : List Markup) : List ListedRow :=
  (Markup.withClass "source-table" page).flatMap fun table =>
    table.children.filterMap ListedRow.read?

namespace Viewer

variable {v : Viewer} {f : SourceFile}

lemma listedRows_render (hf : v.listing.file? = some f) :
    listedRows [v.render] = f.numberedLines.map (ListedRow.ofLine v.display.markedLine) := by
  have hread : ListedRow.read? ∘ Listing.renderRow v.display.markedLine
      = some ∘ ListedRow.ofLine v.display.markedLine :=
    funext (ListedRow.read?_renderRow v.display.markedLine)
  rw [listedRows, v.withClass_table, Listing.renderTable, hf, List.flatMap_singleton]
  change (f.numberedLines.map _).filterMap _ = _
  rw [List.filterMap_map, hread, List.filterMap_eq_map]

/-- The marked rows are those with the number of the marked line. -/
lemma marked_listedRows (hf : v.listing.file? = some f) {line : UInt32}
    (hline : v.display.markedLine = some line) :
    ((listedRows [v.render]).filter (·.marked)).map (·.id)
      = if 1 ≤ line.toNat ∧ line.toNat ≤ lineCount f.content.toList then
          [Listing.rowId line.toNat]
        else [] := by
  have hmarked : ((·.marked) ∘ ListedRow.ofLine (some line) : Nat × String → Bool)
      = (fun n => decide (n = line.toNat)) ∘ (·.1) := by
    funext row
    simp [ListedRow.ofLine, eq_comm]
  have hids : ((·.id) ∘ ListedRow.ofLine (some line) : Nat × String → String)
      = Listing.rowId ∘ (·.1) := rfl
  rw [listedRows_render hf, hline, List.filter_map, hmarked, List.map_map, hids, ← List.map_map,
    ← List.filter_map, f.numbers_numberedLines, List.filter_eq, (List.nodup_range' 1).count]
  have hmem : line.toNat ∈ List.range' 1 (lineCount f.content.toList)
      ↔ 1 ≤ line.toNat ∧ line.toNat ≤ lineCount f.content.toList := by
    rw [List.mem_range'_1]
    omega
  by_cases h : 1 ≤ line.toNat ∧ line.toNat ≤ lineCount f.content.toList
  · rw [if_pos (hmem.2 h), if_pos h]
    rfl
  · rw [if_neg (mt hmem.1 h), if_neg h]
    rfl

end Viewer

/-- **The listing loses nothing and numbers every line once.**  The lines of a file are numbered
from one to the number of its lines, none of them holds a line feed, and with line feeds between
them they are the text, but for the carriage returns in front of line feeds and one line feed at the
end; a carriage return with no line feed behind it is kept.  So a page that lists the file has one
marked row, that of the marked line, if there is a line with this number, and none otherwise. -/
theorem SourceFile.faithful_numberedLines (f : SourceFile) :
    f.numberedLines.map (·.1) = List.range' 1 (lineCount f.content.toList)
    ∧ (∀ line ∈ f.numberedLines, '\n' ∉ line.2.toList)
    ∧ f.joined.toList = dropFinalBreak (unifyBreaks f.content.toList)
    ∧ (∀ before behind, f.content.toList = before ++ '\r' :: behind →
        behind.head? ≠ some '\n' →
          f.joined.toList = unifyBreaks before ++ '\r' :: dropFinalBreak (unifyBreaks behind))
    ∧ ∀ v : Viewer, v.listing.file? = some f → ∀ line, v.display.markedLine = some line →
        ((listedRows [v.render]).filter (·.marked)).map (·.id)
          = if 1 ≤ line.toNat ∧ line.toNat ≤ lineCount f.content.toList then
              [Listing.rowId line.toNat]
            else [] := by
  refine ⟨f.numbers_numberedLines, fun line hline => ?_, f.toList_joined,
    fun before behind hcontent hlone => ?_,
    fun v hf line hline => Viewer.marked_listedRows hf hline⟩
  · have hsplit : line.2.toList ∈ splitLines f.content.toList := by
      rw [← f.contents_numberedLines]
      exact List.mem_map_of_mem hline
    exact not_mem_of_mem_linesFrom List.not_mem_nil hsplit
  · rw [f.toList_joined, hcontent, unifyBreaks_append_return hlone,
      dropFinalBreak_append (List.cons_ne_nil _ _), dropFinalBreak_cons (by decide)]

/-- A file with line ends of both kinds, an empty line, and carriage returns that end no line. -/
def SourceFile.mixed : SourceFile := ⟨"mixed.c", "a\r\nb\rc\r\r\n\nd\r"⟩

/-- The page of a report whose first step marks the second line of this file. -/
def Viewer.mixed : Viewer :=
  (mount Page.bare { Page.marking with sources := [SourceFile.mixed] }).1

theorem SourceFile.faithful_mixed :
    mixed.numberedLines = [(1, "a"), (2, "b\rc\r"), (3, ""), (4, "d\r")]
    ∧ mixed.joined.toList = "a\nb\rc\r\n\nd".toList ++ ['\r']
    ∧ ((listedRows [Viewer.mixed.render]).filter (·.marked)).map (·.id) = ["source-2"] := by
  obtain ⟨-, -, -, hlone, hrows⟩ := faithful_numberedLines mixed
  have hcontent : mixed.content.toList = "a\r\nb\rc\r\r\n\nd".toList ++ '\r' :: [] := by decide
  refine ⟨by cbv, (hlone _ _ hcontent nofun).trans (by decide), ?_⟩
  exact (hrows Viewer.mixed rfl 2 (by cbv)).trans (by decide)

end Retrace
