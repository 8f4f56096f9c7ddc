import Egress.Proofs.Text.Split
import Egress.Proofs.Url.Encoding

/-!
# Paths without dot segments

Removing the segments `.` and `..` from a path leaves none of them, and percent encoding does not
bring any back: a segment that encoding has changed holds a percent sign. So a path in normal form
stays as it is when it is normalized again.

## Key results

- `normalPath_of_forall`: a path without dot segments is its own normal form
- `normalPath_rooted`: the normal form of an absolute path is empty or absolute
- `mem_normalPath`: the last segment of a path is left, unless it is a dot segment
- `normalPath_encode`: the encoding of a normal form is a normal form
-/

namespace Egress.Url

open Egress.Text

/-- A segment that is resolved away. -/
def IsDotSegment (s : List Char) : Prop := s = ['.'] ∨ s = ['.', '.']

/-- A path without segments that are resolved away. -/
def IsResolved (path : List Char) : Prop :=
  ∀ segment ∈ splitBy (· = '/') path, ¬IsDotSegment segment

/-- Whether a path has a dot segment, as `normalPath` asks. -/
private theorem any_dot_eq_false {segments : List (List Char)}
    (h : ∀ s ∈ segments, ¬IsDotSegment s) :
    (segments.any fun s => decide (s = ['.']) || decide (s = ['.', '.'])) = false := by
  rw [List.any_eq_false]
  intro s hs
  simpa [IsDotSegment] using h s hs

/-- A path without dot segments is its own normal form. -/
theorem normalPath_of_forall {path : List Char} (h : IsResolved path) :
    normalPath path = path := by
  simp only [normalPath]
  rw [any_dot_eq_false h]
  rfl

/-! ### Removing dot segments -/

/-- One more segment of a path whose segments so far stand in reverse order. -/
private def pushSegment (reversed : List (List Char)) (segment : List Char) : List (List Char) :=
  if segment = ['.'] then reversed
  else if segment = ['.', '.'] then if reversed = [[]] then reversed else reversed.drop 1
  else segment :: reversed

/-- What is left of the segments of a path is found step by step. -/
private theorem dropDots_eq (segments : List (List Char)) :
    dropDots segments = (segments.foldl pushSegment []).reverse := rfl

/-- A segment that is left stood in the path and is no dot segment. -/
private theorem mem_foldl_pushSegment {segments reversed : List (List Char)} {s : List Char}
    (h : s ∈ segments.foldl pushSegment reversed) :
    s ∈ reversed ∨ (s ∈ segments ∧ ¬IsDotSegment s) := by
  induction segments generalizing reversed with
  | nil => exact .inl h
  | cons segment rest ih =>
    -- One step either keeps what was left, takes away from it, or adds the segment.
    have hpush : s ∈ pushSegment reversed segment →
        s ∈ reversed ∨ (s = segment ∧ ¬IsDotSegment s) := by
      intro hs
      simp only [pushSegment] at hs
      split at hs
      · exact .inl hs
      · rename_i hone
        split at hs
        · split at hs
          · exact .inl hs
          · exact .inl (List.mem_of_mem_drop hs)
        · rename_i htwo
          rcases List.mem_cons.1 hs with rfl | hs
          · exact .inr ⟨rfl, fun hdot => hdot.elim hone htwo⟩
          · exact .inl hs
    rcases ih h with hs | ⟨hs, hdot⟩
    · rcases hpush hs with hs | ⟨rfl, hdot⟩
      · exact .inl hs
      · exact .inr ⟨List.mem_cons_self, hdot⟩
    · exact .inr ⟨List.mem_cons_of_mem _ hs, hdot⟩

/-- The empty segment before the first slash of a path is left. -/
private theorem getLast?_foldl_pushSegment {segments reversed : List (List Char)}
    (h : reversed.getLast? = some []) :
    (segments.foldl pushSegment reversed).getLast? = some [] := by
  induction segments generalizing reversed with
  | nil => exact h
  | cons segment rest ih =>
    refine ih ?_
    simp only [pushSegment]
    split
    · exact h
    -- The step back leaves the first segment in place: it is dropped only when others stand above
    -- it.
    · split
      · split
        · exact h
        · rename_i hne
          cases reversed with
          | nil => exact h
          | cons first others =>
            cases others with
            | nil =>
              have : first = [] := by simpa using h
              exact absurd (this ▸ rfl) hne
            | cons second more => rwa [List.getLast?_cons_cons] at h
      · cases reversed with
        | nil => cases h
        | cons first others => rwa [List.getLast?_cons_cons]

/-- The normal form of a path has no dot segments. -/
theorem isResolved_normalPath (path : List Char) : IsResolved (normalPath path) := by
  simp only [normalPath]
  split
  -- What is left has no slash in it and is no dot segment, so joining it brings in neither.
  · have hleft : ∀ s ∈ dropDots (splitBy (· = '/') path), '/' ∉ s ∧ ¬IsDotSegment s := by
      intro s hs
      rw [dropDots_eq, List.mem_reverse] at hs
      rcases mem_foldl_pushSegment hs with hs | ⟨hs, hdot⟩
      · cases hs
      · exact ⟨fun hslash => by simpa using (mem_of_mem_splitBy hs hslash).2, hdot⟩
    by_cases hnil : dropDots (splitBy (· = '/') path) = []
    · rw [hnil]
      intro s hs
      have : s = [] := by simpa [joinPath, splitBy] using hs
      subst this
      rintro (h | h) <;> cases h
    · rw [IsResolved, splitBy_joinPath hnil fun s hs => (hleft s hs).1]
      exact fun s hs => (hleft s hs).2
  · rename_i hnone
    intro s hs hdot
    -- A path that is kept as it is has no dot segment among its segments.
    refine hnone (List.any_eq_true.2 ⟨s, hs, ?_⟩)
    simpa [IsDotSegment] using hdot

/-- The normal form of an absolute path is empty or absolute. -/
theorem normalPath_rooted (rest : List Char) :
    normalPath ('/' :: rest) = [] ∨ (normalPath ('/' :: rest)).head? = some '/' := by
  simp only [normalPath]
  split
  -- A rooted path begins with an empty segment, which stays at the bottom of what is left.
  · rw [splitBy_cons_sep (by decide)]
    have hlast : ((splitBy (· = '/') rest).foldl pushSegment [[]]).getLast? = some [] :=
      getLast?_foldl_pushSegment rfl
    have hhead : (dropDots ([] :: splitBy (· = '/') rest)).head? = some [] := by
      rw [dropDots_eq, List.head?_reverse]
      exact hlast
    cases hd : dropDots ([] :: splitBy (· = '/') rest) with
    | nil => exact .inl rfl
    | cons first others =>
      rw [hd] at hhead
      cases hhead
      cases others with
      | nil => exact .inl rfl
      | cons second more => exact .inr (by simp [joinPath, List.intersperse_cons_cons])
  · exact .inr rfl

/-- Joined segments hold the characters of each. -/
private theorem mem_joinPath {segments : List (List Char)} {segment : List Char} {c : Char}
    (hs : segment ∈ segments) (hc : c ∈ segment) : c ∈ joinPath segments := by
  induction segments with
  | nil => cases hs
  | cons first rest ih =>
    cases rest with
    | nil =>
      cases List.mem_singleton.1 hs
      simpa [joinPath] using hc
    | cons next others =>
      have hjoin : joinPath (first :: next :: others) =
          first ++ '/' :: joinPath (next :: others) := by
        simp [joinPath, List.intersperse_cons_cons]
      -- The character is in the first segment or in one of the others.
      rw [hjoin, List.mem_append, List.mem_cons]
      rcases List.mem_cons.1 hs with rfl | hs
      · exact .inl hc
      · exact .inr (.inr (ih hs))

/-- The last segment of a path is left, unless it is a dot segment. -/
theorem mem_normalPath {path last : List Char} {front : List (List Char)}
    (h : splitBy (· = '/') path = front ++ [last]) (hdot : ¬IsDotSegment last) {c : Char}
    (hc : c ∈ last) : c ∈ normalPath path := by
  simp only [normalPath]
  split
  -- The last segment is pushed last, so nothing takes it away.
  · have hpush : ∀ reversed, pushSegment reversed last = last :: reversed := by
      intro reversed
      rw [pushSegment, if_neg fun hone => hdot (.inl hone), if_neg fun htwo => hdot (.inr htwo)]
    have hleft : last ∈ dropDots (splitBy (· = '/') path) := by
      rw [dropDots_eq, h, List.foldl_append, List.foldl_cons, hpush]
      simp
    exact mem_joinPath hleft hc
  · -- a path without dot segments stays as it is
    have hmem : last ∈ splitBy (· = '/') path := by simp [h]
    exact (mem_of_mem_splitBy hmem hc).1

/-! ### Encoding -/

/-- A text whose encoding holds no percent sign is its own encoding. -/
theorem encode_of_no_percent {safe : Char → Bool} {s : List Char} (h : '%' ∉ encode safe s) :
    encode safe s = s := by
  refine encode_of_all fun c hc => ?_
  cases hsafe : safe c with
  | true => rfl
  | false =>
    refine absurd ?_ h
    -- A character that is not safe would be written with a percent sign for its first byte.
    have hbyte : ∃ b, b ∈ encodeChar c := by
      refine List.exists_mem_of_ne_nil _ fun hnil => ?_
      have hlen : (encodeChar c).length = c.utf8Size := String.length_utf8EncodeChar c
      have := c.utf8Size_pos
      rw [hnil, List.length_nil] at hlen
      omega
    obtain ⟨b, hb⟩ := hbyte
    refine List.mem_flatMap.2 ⟨c, hc, ?_⟩
    rw [hsafe]
    exact List.mem_flatMap.2 ⟨b, hb, List.mem_cons_self⟩

/-- Encoding works on the segments one by one. -/
theorem splitBy_encode {safe : Char → Bool} (hslash : safe '/' = true) (s : List Char) :
    splitBy (· = '/') (encode safe s) = (splitBy (· = '/') s).map (encode safe) := by
  induction s with
  | nil => rfl
  | cons c rest ih =>
    have hstep : encode safe (c :: rest) = encode safe [c] ++ encode safe rest := by
      simp [encode]
    rw [hstep]
    cases hc : decide (c = '/') with
    | true =>
      have heq : c = '/' := by simpa using hc
      subst heq
      have hone : encode safe ['/'] = ['/'] := encode_of_all fun c hc => by
        cases List.mem_singleton.1 hc
        exact hslash
      rw [hone, splitBy_cons_sep rfl, List.singleton_append, splitBy_cons_sep rfl, ih]
      rfl
    | false =>
      -- the encoding of a character other than the slash holds no slash
      have hno : ∀ d ∈ encode safe [c], decide (d = '/') = false := by
        intro d hd
        rw [decide_eq_false_iff_not]
        rintro rfl
        rcases mem_encode hd with ⟨hd, _⟩ | hd
        · cases List.mem_singleton.1 hd
          cases hc
        · revert hd
          decide
      obtain ⟨first, others, heq⟩ := List.exists_cons_of_ne_nil (splitBy_ne_nil (· = '/') rest)
      rw [splitBy_append hno, ih, splitBy_cons (by simpa using hc), heq]
      simp [encode]

/-- Encoding a path without dot segments gives it none. -/
theorem IsResolved.encode {safe : Char → Bool} (hslash : safe '/' = true) {path : List Char}
    (h : IsResolved path) : IsResolved (encode safe path) := by
  intro s hs
  rw [splitBy_encode hslash] at hs
  obtain ⟨segment, hmem, rfl⟩ := List.mem_map.1 hs
  intro hdot
  have hno : '%' ∉ Url.encode safe segment := by
    rcases hdot with hdot | hdot <;> rw [hdot] <;> decide
  rw [encode_of_no_percent hno] at hdot
  exact h segment hmem hdot

/-- The encoding of a path in normal form is in normal form. -/
theorem normalPath_encode (path : List Char) :
    normalPath (encode pathSafe (normalPath path)) = encode pathSafe (normalPath path) :=
  normalPath_of_forall ((isResolved_normalPath path).encode (by decide))

end Egress.Url
