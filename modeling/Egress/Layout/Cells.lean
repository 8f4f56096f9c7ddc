import Egress.Text.CodeTable

/-! # Widths in terminal cells

A terminal shows most characters in one cell, East Asian wide characters and most emoji in two, and
combining or control characters in none. Characters that are shown together form a cluster: a
zero-width character joins the cluster before it, a zero-width joiner also draws in the character
after it, and a presentation selector widens a narrow emoji.

* `width`      the cells that a text takes
* `fit`        a text cut or padded to an exact number of cells
* `chop`       a text in pieces that each fit into a number of cells
* `flatten_clusters`   the clusters of a text make up the text -/

namespace Egress.Layout

open Egress.Text (CodeTable)

/-- The code points shown in no cell. -/
def zeroWidth : CodeTable := .ofText
  "0-1F 7F-9F AD 300-36F 483-489 591-5BD 5BF 5C1-5C2 5C4-5C5 5C7 600-605 610-61A 61C 64B-65F 670
   6D6-6DD 6DF-6E4 6E7-6E8 6EA-6ED 70F 711 730-74A 7A6-7B0 7EB-7F3 7FD 816-819 81B-823 825-827
   829-82D 859-85B 890-891 898-89F 8CA-903 93A-93C 93E-94F 951-957 962-963 981-983 9BC 9BE-9C4
   9C7-9C8 9CB-9CD 9D7 9E2-9E3 9FE A01-A03 A3C A3E-A42 A47-A48 A4B-A4D A51 A70-A71 A75 A81-A83
   ABC ABE-AC5 AC7-AC9 ACB-ACD AE2-AE3 AFA-AFF B01-B03 B3C B3E-B44 B47-B48 B4B-B4D B55-B57
   B62-B63 B82 BBE-BC2 BC6-BC8 BCA-BCD BD7 C00-C04 C3C C3E-C44 C46-C48 C4A-C4D C55-C56 C62-C63
   C81-C83 CBC CBE-CC4 CC6-CC8 CCA-CCD CD5-CD6 CE2-CE3 CF3 D00-D03 D3B-D3C D3E-D44 D46-D48
   D4A-D4D D57 D62-D63 D81-D83 DCA DCF-DD4 DD6 DD8-DDF DF2-DF3 E31 E34-E3A E47-E4E EB1 EB4-EBC
   EC8-ECE F18-F19 F35 F37 F39 F3E-F3F F71-F84 F86-F87 F8D-F97 F99-FBC FC6 102B-103E 1056-1059
   105E-1060 1062-1064 1067-106D 1071-1074 1082-108D 108F 109A-109D 1160-11FF 135D-135F 1712-1715
   1732-1734 1752-1753 1772-1773 17B4-17D3 17DD 180B-180F 1885-1886 18A9 1920-192B 1930-193B
   1A17-1A1B 1A55-1A5E 1A60-1A7C 1A7F 1AB0-1ACE 1B00-1B04 1B34-1B44 1B6B-1B73 1B80-1B82 1BA1-1BAD
   1BE6-1BF3 1C24-1C37 1CD0-1CD2 1CD4-1CE8 1CED 1CF4 1CF7-1CF9 1DC0-1DFF 200B-200F 2028-202E
   2060-2064 2066-206F 20D0-20F0 2CEF-2CF1 2D7F 2DE0-2DFF 302A-302F 3099-309A A66F-A672 A674-A67D
   A69E-A69F A6F0-A6F1 A802 A806 A80B A823-A827 A82C A880-A881 A8B4-A8C5 A8E0-A8F1 A8FF A926-A92D
   A947-A953 A980-A983 A9B3-A9C0 A9E5 AA29-AA36 AA43 AA4C-AA4D AA7B-AA7D AAB0 AAB2-AAB4 AAB7-AAB8
   AABE-AABF AAC1 AAEB-AAEF AAF5-AAF6 ABE3-ABEA ABEC-ABED D7B0-D7FF FB1E FE00-FE0F FE20-FE2F FEFF
   FFF9-FFFB 101FD 102E0 10376-1037A 10A01-10A03 10A05-10A06 10A0C-10A0F 10A38-10A3A 10A3F
   10AE5-10AE6 10D24-10D27 10EAB-10EAC 10EFD-10EFF 10F46-10F50 10F82-10F85 11000-11002
   11038-11046 11070 11073-11074 1107F-11082 110B0-110BA 110BD 110C2 110CD 11100-11102
   11127-11134 11145-11146 11173 11180-11182 111B3-111C0 111C9-111CC 111CE-111CF 1122C-11237
   1123E 11241 112DF-112EA 11300-11303 1133B-1133C 1133E-11344 11347-11348 1134B-1134D 11357
   11362-11363 11366-1136C 11370-11374 11435-11446 1145E 114B0-114C3 115AF-115B5 115B8-115C0
   115DC-115DD 11630-11640 116AB-116B7 1171D-1172B 1182C-1183A 11930-11935 11937-11938
   1193B-1193E 11940 11942-11943 119D1-119D7 119DA-119E0 119E4 11A01-11A0A 11A33-11A39
   11A3B-11A3E 11A47 11A51-11A5B 11A8A-11A99 11C2F-11C36 11C38-11C3F 11C92-11CA7 11CA9-11CB6
   11D31-11D36 11D3A 11D3C-11D3D 11D3F-11D45 11D47 11D8A-11D8E 11D90-11D91 11D93-11D97
   11EF3-11EF6 11F00-11F01 11F03 11F34-11F3A 11F3E-11F42 13430-13440 13447-13455 16AF0-16AF4
   16B30-16B36 16F4F 16F51-16F87 16F8F-16F92 16FE4 16FF0-16FF1 1BC9D-1BC9E 1BCA0-1BCA3
   1CF00-1CF2D 1CF30-1CF46 1D165-1D169 1D16D-1D182 1D185-1D18B 1D1AA-1D1AD 1D242-1D244
   1DA00-1DA36 1DA3B-1DA6C 1DA75 1DA84 1DA9B-1DA9F 1DAA1-1DAAF 1E000-1E006 1E008-1E018
   1E01B-1E021 1E023-1E024 1E026-1E02A 1E08F 1E130-1E136 1E2AE 1E2EC-1E2EF 1E4EC-1E4EF
   1E8D0-1E8D6 1E944-1E94A 1F3FB-1F3FF E0001 E0020-E007F E0100-E01EF"

/-- The code points shown in two cells. -/
def wide : CodeTable := .ofText
  "1100-115F 231A-231B 2329-232A 23E9-23EC 23F0 23F3 25FD-25FE 2614-2615 2630-2637 2648-2653 267F
   268A-268F 2693 26A1 26AA-26AB 26BD-26BE 26C4-26C5 26CE 26D4 26EA 26F2-26F3 26F5 26FA 26FD 2705
   270A-270B 2728 274C 274E 2753-2755 2757 2795-2797 27B0 27BF 2B1B-2B1C 2B50 2B55 2E80-2E99
   2E9B-2EF3 2F00-2FD5 2FF0-3029 3030-303E 3041-3096 309B-30FF 3105-312F 3131-318E 3190-31E3
   31EF-321E 3220-3247 3250-A48C A490-A4C6 A960-A97C AC00-D7A3 F900-FAFF FE10-FE19 FE30-FE52
   FE54-FE66 FE68-FE6B FF01-FF60 FFE0-FFE6 16FE0-16FE3 17000-187F7 18800-18CD5 18D00-18D08
   1AFF0-1AFF3 1AFF5-1AFFB 1AFFD-1AFFE 1B000-1B122 1B132 1B150-1B152 1B155 1B164-1B167
   1B170-1B2FB 1D300-1D356 1D360-1D376 1F004 1F0CF 1F18E 1F191-1F19A 1F200-1F202 1F210-1F23B
   1F240-1F248 1F250-1F251 1F260-1F265 1F300-1F320 1F32D-1F335 1F337-1F37C 1F37E-1F393
   1F3A0-1F3CA 1F3CF-1F3D3 1F3E0-1F3F0 1F3F4 1F3F8-1F3FA 1F400-1F43E 1F440 1F442-1F4FC
   1F4FF-1F53D 1F54B-1F54E 1F550-1F567 1F57A 1F595-1F596 1F5A4 1F5FB-1F64F 1F680-1F6C5 1F6CC
   1F6D0-1F6D2 1F6D5-1F6D7 1F6DC-1F6DF 1F6EB-1F6EC 1F6F4-1F6FC 1F7E0-1F7EB 1F7F0 1F90C-1F93A
   1F93C-1F945 1F947-1F9FF 1FA70-1FA7C 1FA80-1FA89 1FA8F-1FAC6 1FACE-1FADC 1FADF-1FAE9
   1FAF0-1FAF8 20000-2FFFD 30000-3FFFD"

/-- The code points shown in one cell, but in two with a presentation selector after them. -/
def widened : CodeTable := .ofText
  "23 2A 30-39 A9 AE 203C 2049 2122 2139 2194-2199 21A9-21AA 2328 23CF 23ED-23EF 23F1-23F2
   23F8-23FA 24C2 25AA-25AB 25B6 25C0 25FB-25FC 2600-2604 260E 2611 2618 261D 2620 2622-2623 2626
   262A 262E-262F 2638-263A 2640 2642 265F-2660 2663 2665-2666 2668 267B 267E 2692 2694-2697 2699
   269B-269C 26A0 26A7 26B0-26B1 26C8 26CF 26D1 26D3 26E9 26F0-26F1 26F4 26F7-26F9 2702 2708-2709
   270C-270D 270F 2712 2714 2716 271D 2721 2733-2734 2744 2747 2763-2764 27A1 2934-2935 2B05-2B07
   1F170-1F171 1F17E-1F17F 1F321 1F324-1F32C 1F336 1F37D 1F396-1F397 1F399-1F39B 1F39E-1F39F
   1F3CB-1F3CE 1F3D4-1F3DF 1F3F3 1F3F5 1F3F7 1F43F 1F441 1F4FD 1F549-1F54A 1F56F-1F570
   1F573-1F579 1F587 1F58A-1F58D 1F590 1F5A5 1F5A8 1F5B1-1F5B2 1F5BC 1F5C2-1F5C4 1F5D1-1F5D3
   1F5DC-1F5DE 1F5E1 1F5E3 1F5E8 1F5EF 1F5F3 1F5FA 1F6CB 1F6CD-1F6CF 1F6E0-1F6E5 1F6E9 1F6F0
   1F6F3"

/-- The cells that a character takes by itself. -/
def charWidth (c : Char) : Nat :=
  if 0x20 ≤ c.toNat ∧ c.toNat < 0x7F then 1
  else if zeroWidth.contains c.toNat then 0
  else if wide.contains c.toNat then 2
  else 1

/-- Characters shown together, and the cells that they take. -/
structure Cluster where
  text : List Char
  width : Nat

/-- The zero-width joiner. -/
def joiner : Char := Char.ofNat 0x200D

/-- The selector of the presentation of an emoji in colour. -/
def selector : Char := Char.ofNat 0xFE0F

/-- The cells that a selector adds after a character. -/
def selectorWidth (last : Option Char) : Nat :=
  if last.any fun c => widened.contains c.toNat then 1 else 0

/-- The clusters of a text that follow the cluster in progress, where `last` is the latest
character with a width and not yet widened. -/
def clustersFrom (current : Cluster) (last : Option Char) : List Char → List Cluster
  | [] => [current]
  | c :: rest =>
    if c = joiner then
      match rest with
      | [] => [⟨current.text ++ [c], current.width⟩]
      | d :: rest => clustersFrom ⟨current.text ++ [c, d], current.width⟩ last rest
    else if c = selector then
      let extra := selectorWidth last
      clustersFrom ⟨current.text ++ [c], current.width + extra⟩
        (if extra = 0 then last else none) rest
    else if charWidth c = 0 then clustersFrom ⟨current.text ++ [c], current.width⟩ last rest
    else current :: clustersFrom ⟨[c], charWidth c⟩ (some c) rest

/-- The clusters of a text. -/
def clusters : List Char → List Cluster
  | [] => []
  | c :: rest =>
    if c = joiner ∨ c = selector ∨ charWidth c = 0 then clustersFrom ⟨[c], 0⟩ none rest
    else clustersFrom ⟨[c], charWidth c⟩ (some c) rest

theorem flatten_clustersFrom (current : Cluster) (last : Option Char) (s : List Char) :
    ((clustersFrom current last s).map (·.text)).flatten = current.text ++ s := by
  fun_induction clustersFrom current last s <;> simp_all

/-- The clusters of a text make up the text. -/
theorem flatten_clusters (s : List Char) : ((clusters s).map (·.text)).flatten = s := by
  cases s with
  | nil => rfl
  | cons c rest => simp only [clusters]; split <;> simp [flatten_clustersFrom]

/-- The cells that a text takes. -/
def width (s : List Char) : Nat := (clusters s).foldl (fun n k => n + k.width) 0

/-- The beginning of clusters that takes `n` cells, with blanks where a wide cluster is cut. -/
def takeCells (n : Nat) : List Cluster → List Char
  | [] => []
  | k :: rest =>
    if n = 0 then []
    else if k.width ≤ n then k.text ++ takeCells (n - k.width) rest
    else List.replicate n ' '

/-- A text padded with blanks to `n` cells, if it is narrower. -/
def pad (n : Nat) (s : List Char) : List Char := s ++ List.replicate (n - width s) ' '

/-- A text without what is beyond `n` cells. -/
def crop (n : Nat) (s : List Char) : List Char :=
  if width s ≤ n then s else takeCells n (clusters s)

/-- A text cut or padded to exactly `n` cells. -/
def fit (n : Nat) (s : List Char) : List Char :=
  if width s ≤ n then pad n s else takeCells n (clusters s)

/-- Clusters in pieces that each fit into `n` cells, after a piece in progress. -/
def chopFrom (n : Nat) (piece : List Char) (cells : Nat) : List Cluster → List (List Char)
  | [] => if cells = 0 then [] else [piece]
  | k :: rest =>
    if n < cells + k.width then piece :: chopFrom n k.text k.width rest
    else chopFrom n (piece ++ k.text) (cells + k.width) rest

/-- A text in pieces that each fit into `n` cells. -/
def chop (n : Nat) (s : List Char) : List (List Char) := chopFrom n [] 0 (clusters s)

end Egress.Layout
