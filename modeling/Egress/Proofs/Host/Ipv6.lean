import Egress.Host.Ipv6
import Egress.Proofs.Text.Split

/-!
# The grammar of IPv6 addresses

An address is eight groups of up to four hexadecimal digits with colons between them. One or more
groups may be left out where two colons stand next to each other, and the last two may be written
as an IPv4 address. What the check accepts is written by this grammar.

## Key results

- `IsAddress`: the grammar
- `gapped_of_areGroups`: the groups of an address before and after the gap
- `isAddress_of_isIpv6`: what is accepted without a zone is an address
-/

namespace Egress.Host

open Egress.Text

/-! ### The grammar -/

/-- Groups with colons between them. -/
def joinGroups (groups : List (List Char)) : List Char := (groups.intersperse [':']).flatten

/-- Groups that make up so many of the eight of an address. -/
inductive Groups : Nat → List (List Char) → Prop where
  | hex {groups : List (List Char)} (digits : ∀ g ∈ groups, isGroup g = true) :
    Groups groups.length groups
  -- An IPv4 address at the end makes up two groups.
  | ipv4 {groups : List (List Char)} {last : List Char} (digits : ∀ g ∈ groups, isGroup g = true)
    (octets : isIpv4 last = true) : Groups (groups.length + 2) (groups ++ [last])

/-- An IPv6 address without a zone. -/
inductive IsAddress : List Char → Prop where
  | full {groups : List (List Char)} (all : Groups 8 groups) : IsAddress (joinGroups groups)
  -- At least one group is left out.
  | shortened {before after : List (List Char)} {n : Nat} (digits : ∀ g ∈ before, isGroup g = true)
    (rest : Groups n after) (fewer : before.length + n < 8) :
    IsAddress (joinGroups before ++ [':', ':'] ++ joinGroups after)

/-! ### Joining -/

/-- A colon stands between two groups. -/
theorem joinGroups_cons_cons (g h : List Char) (rest : List (List Char)) :
    joinGroups (g :: h :: rest) = g ++ ':' :: joinGroups (h :: rest) := by
  simp [joinGroups, List.intersperse_cons_cons]

/-- A colon stands between two parts with groups. -/
theorem joinGroups_append {before after : List (List Char)} (hb : before ≠ []) (ha : after ≠ []) :
    joinGroups (before ++ after) = joinGroups before ++ ':' :: joinGroups after := by
  induction before with
  | nil => exact absurd rfl hb
  | cons g rest ih =>
    cases rest with
    | nil =>
      obtain ⟨h, more, rfl⟩ := List.exists_cons_of_ne_nil ha
      simp [joinGroups]
    | cons h more =>
      rw [List.cons_append, List.cons_append, joinGroups_cons_cons, ← List.cons_append,
        ih (List.cons_ne_nil _ _), joinGroups_cons_cons]
      simp

/-- The pieces of a text between its colons, with colons between them, are the text. -/
theorem joinGroups_splitBy (s : List Char) : joinGroups (splitBy (· = ':') s) = s := by
  -- By induction on the characters; a colon begins a new piece, anything else belongs to the first
  -- one.
  induction s with
  | nil => rfl
  | cons c rest ih =>
    obtain ⟨first, others, heq⟩ := List.exists_cons_of_ne_nil (splitBy_ne_nil (· = ':') rest)
    by_cases hc : c = ':'
    · rw [splitBy_cons_sep (by simpa using hc), heq, joinGroups_cons_cons, ← heq, ih, hc]
      rfl
    · rw [splitBy_cons (by simpa using hc), heq, List.modifyHead_cons]
      rw [heq] at ih
      cases others with
      | nil => simpa [joinGroups] using ih
      | cons next more =>
        rw [joinGroups_cons_cons] at ih ⊢
        rw [List.cons_append, ih]

/-! ### Gaps -/

/-- The pieces of an address with a gap: an empty one for the gap, and one more at an end of the
text that has no groups. -/
def gapped (before after : List (List Char)) : List (List Char) :=
  (if before = [] then [[]] else before) ++ [] :: (if after = [] then [[]] else after)

/-- Groups with a gap are written with two colons in its place. -/
theorem joinGroups_gapped (before after : List (List Char)) :
    joinGroups (gapped before after) = joinGroups before ++ [':', ':'] ++ joinGroups after := by
  -- An empty group behind the gap, or none, puts a second colon there.
  have hright :
      joinGroups ([] :: (if after = [] then [[]] else after)) = ':' :: joinGroups after := by
    split
    · rename_i h
      subst h
      rfl
    · rename_i h
      obtain ⟨g, rest, rfl⟩ := List.exists_cons_of_ne_nil h
      rw [joinGroups_cons_cons]
      rfl
  have hleft : joinGroups (if before = [] then [[]] else before) = joinGroups before := by
    split
    · rename_i h
      subst h
      rfl
    · rfl
  rw [gapped, joinGroups_append (by split <;> simp_all) (List.cons_ne_nil _ _), hright, hleft]
  simp

/-- The longest beginning without empty pieces ends before the first empty one. -/
private theorem takeWhile_append_nil {l : List (List Char)} (h : [] ∉ l) (r : List (List Char)) :
    (l ++ [] :: r).takeWhile (· ≠ []) = l := by
  have hfull : ∀ g ∈ l, decide (g ≠ []) = true := by
    intro g hg
    rw [decide_eq_true_eq]
    rintro rfl
    exact h hg
  rw [List.takeWhile_append_of_pos hfull]
  simp

/-- Pieces with a single empty one between the first and the last, which are empty at most next
to it. -/
private theorem eq_gapped {first last : List Char} {a b : List (List Char)}
    (hfirst : first = [] → a = []) (hlast : last = [] → b = []) :
    first :: (a ++ [] :: b ++ [last]) =
      gapped (if first = [] then [] else first :: a) (if last = [] then [] else b ++ [last]) := by
  by_cases hf : first = []
  · by_cases hl : last = []
    · simp [gapped, hf, hl, hfirst hf, hlast hl]
    · simp [gapped, hf, hl, hfirst hf]
  · by_cases hl : last = []
    · simp [gapped, hf, hl, hlast hl]
    · simp [gapped, hf, hl]

/-- What is checked of pieces with a single empty one between the first and the last. -/
private theorem areGroups_gap {first last : List Char} {a b : List (List Char)} (ha : [] ∉ a)
    (hb : [] ∉ b) (h : areGroups (first :: (a ++ [] :: b ++ [last])) = true) :
    (first = [] → a = []) ∧ (last = [] → b = []) ∧
      (∀ g ∈ (if first = [] then [] else first :: a), isGroup g = true) ∧
      (∀ g ∈ (if last = [] then [] else b ++ [last]), isGroup g = true) ∧
      (if first = [] then [] else first :: a).length +
        (if last = [] then [] else b ++ [last]).length < 8 := by
  -- The parts that the check looks at, computed from the shape of the list: what is inside, before
  -- the gap and behind it.
  have hinner : ((first :: (a ++ [] :: b ++ [last])).drop 1).dropLast = a ++ [] :: b := by
    rw [List.drop_one, List.tail_cons, List.dropLast_concat]
  have hskips : (a ++ [] :: b).filter List.isEmpty ≠ [] :=
    List.ne_nil_of_mem (List.mem_filter.2 ⟨List.mem_append_right a List.mem_cons_self, rfl⟩)
  have hhigh : (if first = [] then [] else
      (first :: (a ++ [] :: b ++ [last])).takeWhile (· ≠ [])) =
        if first = [] then [] else first :: a := by
    split
    · rfl
    · rename_i hf
      have hmore : [] ∉ first :: a := by simpa using ⟨fun he => hf he, ha⟩
      simpa using takeWhile_append_nil hmore (b ++ [last])
  have hlow : ((first :: (a ++ [] :: b ++ [last])).reverse.takeWhile (· ≠ [])).reverse =
      if last = [] then [] else b ++ [last] := by
    split
    · rename_i hl
      simp [hl]
    · rename_i hl
      have hmore : [] ∉ last :: b.reverse := by simpa using ⟨fun he => hl he, hb⟩
      have hrev : (first :: (a ++ [] :: b ++ [last])).reverse =
          last :: b.reverse ++ [] :: (a.reverse ++ [first]) := by simp
      rw [hrev, takeWhile_append_nil hmore]
      simp
  -- An empty group at an end must be next to the gap.
  have hnotFirst : (a ++ [] :: b ++ [last]).head? = some [] → a = [] := by
    intro hhead
    cases a with
    | nil => rfl
    | cons g rest =>
      cases hhead
      exact absurd List.mem_cons_self ha
  have hnotLast : (first :: (a ++ [] :: b)).getLast? = some [] → b = [] := by
    intro htail
    cases b with
    | nil => rfl
    | cons g rest =>
      rw [List.getLast?_cons, List.getLast?_append, List.getLast?_cons_cons] at htail
      have hlast : (g :: rest).getLast? = some [] := by
        cases hg : (g :: rest).getLast? with
        | none => simp at hg
        | some l => simpa [hg] using htail
      exact absurd (List.mem_of_getLast? hlast) hb
  simp only [areGroups, hinner, hlow, if_neg hskips] at h
  split at h
  · cases h
  · simp only [Bool.and_eq_true, Bool.or_eq_true, decide_eq_true_eq, List.all_eq_true,
      Bool.not_eq_true', decide_eq_false_iff_not, List.head?_cons, Option.some.injEq, hhigh] at h
    obtain ⟨⟨⟨⟨hf, hl⟩, hlt⟩, hbefore⟩, hafter⟩ := h
    refine ⟨fun he => hnotFirst (hf.resolve_left fun hn => hn he), fun he => hnotLast ?_, hbefore,
      hafter, hlt⟩
    rw [← List.cons_append, List.getLast?_concat, List.dropLast_concat] at hl
    exact hl.resolve_left fun hn => hn (by rw [he])

/-- Groups that are accepted are eight, or fewer on both sides of a gap. -/
theorem gapped_of_areGroups {parts : List (List Char)} (h : areGroups parts = true) :
    (parts.length = 8 ∧ ∀ g ∈ parts, isGroup g = true) ∨
      ∃ before after, parts = gapped before after ∧ (∀ g ∈ before, isGroup g = true) ∧
        (∀ g ∈ after, isGroup g = true) ∧ before.length + after.length < 8 := by
  have hchecked := h
  simp only [areGroups] at h
  split at h
  · cases h
  · rename_i hfew
    split at h
    · simp only [Bool.and_eq_true, beq_iff_eq, List.all_eq_true] at h
      exact .inl h
    · rename_i hgap
      -- there is exactly one empty piece between the first and the last
      obtain ⟨g, hg⟩ := List.exists_mem_of_ne_nil _ hgap
      obtain ⟨hmem, hempty⟩ := List.mem_filter.1 hg
      rw [List.isEmpty_iff] at hempty
      subst hempty
      obtain ⟨a, b, hinner, ha⟩ := List.eq_append_cons_of_mem hmem
      have hb : [] ∉ b := by
        intro hb
        have hpos : 0 < (b.filter List.isEmpty).length :=
          List.length_pos_of_mem (List.mem_filter.2 ⟨hb, rfl⟩)
        rw [hinner, List.filter_append, List.filter_cons_of_pos rfl, List.length_append,
          List.length_cons] at hfew
        omega
      obtain ⟨first, tail, rfl⟩ : ∃ first tail, parts = first :: tail := by
        cases parts with
        | nil => cases hmem
        | cons first tail => exact ⟨first, tail, rfl⟩
      rw [List.drop_one, List.tail_cons] at hinner
      obtain ⟨last, rfl⟩ : ∃ last, tail = a ++ [] :: b ++ [last] := by
        have hne : tail ≠ [] := by
          rintro rfl
          simp at hinner
        exact ⟨tail.getLast hne, by rw [← hinner, List.dropLast_concat_getLast]⟩
      obtain ⟨hfirst, hlast, hbefore, hafter, hlt⟩ := areGroups_gap ha hb hchecked
      exact .inr ⟨_, _, eq_gapped hfirst hlast, hbefore, hafter, hlt⟩

/-! ### Addresses -/

/-- Groups that are accepted with an IPv4 address in the place of the last two are an address. -/
private theorem isAddress_of_ipv4 {front : List (List Char)} {last : List Char}
    (hlast : isIpv4 last = true) (h : areGroups (front ++ [['0'], ['0']]) = true) :
    IsAddress (joinGroups (front ++ [last])) := by
  -- Either eight groups without a gap, or a gap before the last two.
  rcases gapped_of_areGroups h with ⟨hlength, hdigits⟩ | ⟨before, after, heq, hbefore, hafter, hlt⟩
  · have hsix : front.length + 2 = 8 := by simpa using hlength
    exact .full (hsix ▸ .ipv4 (fun g hg => hdigits g (List.mem_append_left _ hg)) hlast)
  · -- the two groups that stand for the IPv4 address are behind the gap
    obtain ⟨more, rfl, hfront⟩ : ∃ more, after = more ++ [['0'], ['0']] ∧
        front ++ [last] = gapped before (more ++ [last]) := by
      rw [gapped, List.append_eq_append_iff] at heq
      rcases heq with ⟨extra, _, hzeros⟩ | ⟨extra, hfront, hzeros⟩
      · have hmem : [] ∈ [['0'], ['0']] := by
          rw [hzeros]
          exact List.mem_append_right extra List.mem_cons_self
        simp at hmem
      · cases extra with
        | nil => simp at hzeros
        | cons g more =>
          obtain ⟨rfl, hmore⟩ := List.cons.inj hzeros
          split at hmore
          · have := congrArg List.length hmore
            simp at this
          · exact ⟨more, hmore, by simp [gapped, hfront]⟩
    rw [hfront, joinGroups_gapped]
    refine .shortened hbefore
      (.ipv4 (fun g hg => hafter g (List.mem_append_left _ hg)) hlast) ?_
    simpa using hlt

/-- What is accepted without a zone is an address. -/
theorem isAddress_of_isIpv6WithoutZone {s : List Char} (h : isIpv6WithoutZone s = true) :
    IsAddress s := by
  simp only [isIpv6WithoutZone] at h
  split at h
  · cases h
  · rw [← joinGroups_splitBy s]
    -- The last piece decides whether there is an IPv4 address in it.
    obtain ⟨front, last, hparts⟩ : ∃ front last, splitBy (· = ':') s = front ++ [last] :=
      ⟨_, _, (List.dropLast_concat_getLast (splitBy_ne_nil _ s)).symm⟩
    rw [hparts] at h ⊢
    rw [List.getLast?_concat, Option.getD_some, List.dropLast_concat] at h
    split at h
    · rw [Bool.and_eq_true] at h
      exact isAddress_of_ipv4 h.1 h.2
    · rcases gapped_of_areGroups h with ⟨hlength, hdigits⟩ |
        ⟨before, after, heq, hbefore, hafter, hlt⟩
      · exact .full (hlength ▸ .hex hdigits)
      · rw [heq, joinGroups_gapped]
        exact .shortened hbefore (.hex hafter) hlt

/-- An address without a percent sign has no zone. -/
theorem isAddress_of_isIpv6 {s : List Char} (h : isIpv6 s = true) (hpercent : '%' ∉ s) :
    IsAddress s := by
  rw [isIpv6] at h
  split at h
  · cases h
  · cases hcut : cut '%' s with
    | none =>
      rw [hcut] at h
      exact isAddress_of_isIpv6WithoutZone h
    | some parts =>
      refine absurd ?_ hpercent
      rw [(eq_of_cut_eq_some hcut).1]
      simp

end Egress.Host
