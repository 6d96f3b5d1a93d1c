import Calculator.Session.Source

/-!
# Bytes divided into lines

Every sequence of bytes consists of lines that end at their first line feed, and of a rest without
one, in one way only. The lines that can be read are these, and the rest too, unless it is empty or
lost in a failure.
-/

namespace Calculator

/-- The bytes are the complete lines one after the other, and then the rest. -/
structure Divided (bs : List UInt8) (complete : List (List UInt8)) (rest : List UInt8) : Prop where
  bytes : bs = complete.flatten ++ rest
  complete : ∀ l ∈ complete, ∃ body, l = body ++ [lineFeed] ∧ lineFeed ∉ body
  rest : lineFeed ∉ rest

namespace LineSplitter

theorem foldl_step_of_not_mem {bs : List UInt8} (h : lineFeed ∉ bs) (s : LineSplitter) :
    bs.foldl step s = ⟨s.lines, bs.reverse ++ s.current⟩ := by
  induction bs generalizing s with
  | nil => rfl
  | cons b bs ih =>
      have hb : b ≠ lineFeed := fun hb => h (hb ▸ List.mem_cons_self)
      have hbs : lineFeed ∉ bs := fun hbs => h (List.mem_cons_of_mem b hbs)
      rw [List.foldl_cons, ih hbs, step, if_neg hb]
      simp

theorem foldl_step_line {body : List UInt8} (h : lineFeed ∉ body) (lines : List (List UInt8)) :
    (body ++ [lineFeed]).foldl step ⟨lines, []⟩ = ⟨(body ++ [lineFeed]) :: lines, []⟩ := by
  rw [List.foldl_append, foldl_step_of_not_mem h, List.foldl_cons, List.foldl_nil, step, if_pos rfl]
  simp

theorem foldl_step_flatten {complete : List (List UInt8)}
    (h : ∀ l ∈ complete, ∃ body, l = body ++ [lineFeed] ∧ lineFeed ∉ body)
    (lines : List (List UInt8)) :
    complete.flatten.foldl step ⟨lines, []⟩ = ⟨complete.reverse ++ lines, []⟩ := by
  induction complete generalizing lines with
  | nil => rfl
  | cons l ls ih =>
      obtain ⟨body, rfl, hbody⟩ := h l List.mem_cons_self
      rw [List.flatten_cons, List.foldl_append, foldl_step_line hbody,
        ih fun l hl => h l (List.mem_cons_of_mem _ hl)]
      simp

/-- Between two bytes the splitter holds complete lines and the beginning of one. -/
structure Splitting (s : LineSplitter) : Prop where
  lines : ∀ l ∈ s.lines, ∃ body, l = body ++ [lineFeed] ∧ lineFeed ∉ body
  current : lineFeed ∉ s.current

theorem Splitting.step {s : LineSplitter} (h : s.Splitting) (b : UInt8) : (s.step b).Splitting := by
  unfold LineSplitter.step
  split
  · next hb =>
    refine ⟨fun l hl => ?_, List.not_mem_nil⟩
    rcases List.mem_cons.mp hl with rfl | hl
    · exact ⟨s.current.reverse, by simp [hb], by simpa using h.current⟩
    · exact h.lines l hl
  · next hb =>
    refine ⟨h.lines, fun hmem => ?_⟩
    rcases List.mem_cons.mp hmem with hb' | hmem
    · exact hb hb'.symm
    · exact h.current hmem

theorem Splitting.foldl_step {s : LineSplitter} (h : s.Splitting) (bs : List UInt8) :
    (bs.foldl LineSplitter.step s).Splitting := by
  induction bs generalizing s with
  | nil => exact h
  | cons b bs ih => exact ih (h.step b)

end LineSplitter

theorem divided_iff {bs : List UInt8} {complete : List (List UInt8)} {rest : List UInt8} :
    Divided bs complete rest ↔
      (LineSplitter.ofBytes bs).lines.reverse = complete ∧
        (LineSplitter.ofBytes bs).current.reverse = rest := by
  constructor
  · rintro ⟨rfl, hcomplete, hrest⟩
    rw [LineSplitter.ofBytes, List.foldl_append, LineSplitter.foldl_step_flatten hcomplete,
      LineSplitter.foldl_step_of_not_mem hrest]
    simp
  · rintro ⟨rfl, rfl⟩
    have hsplit : (LineSplitter.ofBytes bs).Splitting :=
      LineSplitter.Splitting.foldl_step
        ⟨fun l hl => absurd hl List.not_mem_nil, List.not_mem_nil⟩ bs
    refine ⟨(LineSplitter.bytes_ofBytes bs).symm, fun l hl => ?_, ?_⟩
    · exact hsplit.lines l (List.mem_reverse.mp hl)
    · exact fun h => hsplit.current (List.mem_reverse.mp h)

theorem exists_divided (bs : List UInt8) : ∃ complete rest, Divided bs complete rest :=
  ⟨_, _, divided_iff.mpr ⟨rfl, rfl⟩⟩

theorem divided_flatten {complete : List (List UInt8)}
    (h : ∀ l ∈ complete, ∃ body, l = body ++ [lineFeed] ∧ lineFeed ∉ body) :
    Divided complete.flatten complete [] :=
  ⟨(List.append_nil _).symm, h, List.not_mem_nil⟩

namespace Divided

variable {bs : List UInt8} {complete : List (List UInt8)} {rest : List UInt8}

theorem lines_eq (h : Divided bs complete rest) (failure : Option String) :
    (Source.mk bs failure).lines =
      complete ++ if failure.isSome || rest.isEmpty then [] else [rest] := by
  obtain ⟨rfl, rfl⟩ := divided_iff.mp h
  simp [Source.lines]

theorem append (h : Divided bs complete []) {cs : List UInt8} {more : List (List UInt8)}
    {tail : List UInt8} (h' : Divided cs more tail) :
    Divided (bs ++ cs) (complete ++ more) tail := by
  refine ⟨?_, fun l hl => ?_, h'.rest⟩
  · rw [h.bytes, h'.bytes]
    simp
  · exact (List.mem_append.mp hl).elim (h.complete l) (h'.complete l)

end Divided

namespace Source

theorem lines_flatten {complete : List (List UInt8)}
    (h : ∀ l ∈ complete, ∃ body, l = body ++ [lineFeed] ∧ lineFeed ∉ body)
    (failure : Option String) : (Source.mk complete.flatten failure).lines = complete := by
  simpa using (divided_flatten h).lines_eq failure

/-- The lines read first, as a source of their own, are read as the same lines. -/
theorem lines_flatten_of_isPrefix {s : Source} {done : List (List UInt8)} (h : done <+: s.lines) :
    (Source.mk done.flatten none).lines = done := by
  obtain ⟨complete, rest, hdiv⟩ := exists_divided s.bytes
  have hlines : s.lines = _ := hdiv.lines_eq s.failure
  have hcomplete : ∀ {ls}, ls <+: complete → (Source.mk ls.flatten none).lines = ls :=
    fun hls => lines_flatten (fun l hl => hdiv.complete l (hls.subset hl)) none
  rw [hlines] at h
  split at h
  · rw [List.append_nil] at h
    exact hcomplete h
  · next hrest =>
    rcases List.prefix_concat_iff.mp h with rfl | h
    · have hd : Divided (complete ++ [rest]).flatten complete rest :=
        ⟨by simp, hdiv.complete, hdiv.rest⟩
      rw [hd.lines_eq none]
      simp only [Bool.or_eq_true, not_or] at hrest
      simp [hrest.2]
    · exact hcomplete h

/-- The lines read last, as a source of their own, are read as the same lines. -/
theorem lines_flatten_of_isSuffix {s : Source} {more : List (List UInt8)} (h : more <:+ s.lines) :
    (Source.mk more.flatten s.failure).lines = more := by
  obtain ⟨complete, rest, hdiv⟩ := exists_divided s.bytes
  have hlines : s.lines = _ := hdiv.lines_eq s.failure
  have hcomplete : ∀ {ls}, ls <:+ complete → (Source.mk ls.flatten s.failure).lines = ls :=
    fun hls => lines_flatten (fun l hl => hdiv.complete l (hls.subset hl)) s.failure
  rw [hlines] at h
  split at h
  · rw [List.append_nil] at h
    exact hcomplete h
  · next hrest =>
    rcases List.suffix_concat_iff.mp h with rfl | ⟨ls, rfl, hls⟩
    · exact hcomplete List.nil_suffix
    · have hd : Divided (ls ++ [rest]).flatten ls rest :=
        ⟨by simp, fun l hl => hdiv.complete l (hls.subset hl), hdiv.rest⟩
      rw [hd.lines_eq s.failure, if_neg hrest]

end Source

end Calculator
