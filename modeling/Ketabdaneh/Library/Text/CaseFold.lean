import Ketabdaneh.Library.Text.Basic

/-!
This module contains the case folding of Unicode 15, in its full form: what Python's `str.casefold`
does to every character.
-/

namespace Text

/-- Runs of characters that fold to a run of as many: first, last, stride, and the first target. -/
def foldRuns : List (Nat × Nat × Nat × Nat) :=
  [(0x41, 0x5A, 1, 0x61), (0xB5, 0xB5, 1, 0x3BC), (0xC0, 0xD6, 1, 0xE0), (0xD8, 0xDE, 1, 0xF8),
  (0x100, 0x12E, 2, 0x101), (0x132, 0x136, 2, 0x133), (0x139, 0x147, 2, 0x13A),
  (0x14A, 0x176, 2, 0x14B), (0x178, 0x178, 1, 0xFF), (0x179, 0x17D, 2, 0x17A),
  (0x17F, 0x17F, 1, 0x73), (0x181, 0x181, 1, 0x253), (0x182, 0x184, 2, 0x183),
  (0x186, 0x186, 1, 0x254), (0x187, 0x187, 1, 0x188), (0x189, 0x18A, 1, 0x256),
  (0x18B, 0x18B, 1, 0x18C), (0x18E, 0x18E, 1, 0x1DD), (0x18F, 0x18F, 1, 0x259),
  (0x190, 0x190, 1, 0x25B), (0x191, 0x191, 1, 0x192), (0x193, 0x193, 1, 0x260),
  (0x194, 0x194, 1, 0x263), (0x196, 0x196, 1, 0x269), (0x197, 0x197, 1, 0x268),
  (0x198, 0x198, 1, 0x199), (0x19C, 0x19C, 1, 0x26F), (0x19D, 0x19D, 1, 0x272),
  (0x19F, 0x19F, 1, 0x275), (0x1A0, 0x1A4, 2, 0x1A1), (0x1A6, 0x1A6, 1, 0x280),
  (0x1A7, 0x1A7, 1, 0x1A8), (0x1A9, 0x1A9, 1, 0x283), (0x1AC, 0x1AC, 1, 0x1AD),
  (0x1AE, 0x1AE, 1, 0x288), (0x1AF, 0x1AF, 1, 0x1B0), (0x1B1, 0x1B2, 1, 0x28A),
  (0x1B3, 0x1B5, 2, 0x1B4), (0x1B7, 0x1B7, 1, 0x292), (0x1B8, 0x1B8, 1, 0x1B9),
  (0x1BC, 0x1BC, 1, 0x1BD), (0x1C4, 0x1C4, 1, 0x1C6), (0x1C5, 0x1C5, 1, 0x1C6),
  (0x1C7, 0x1C7, 1, 0x1C9), (0x1C8, 0x1C8, 1, 0x1C9), (0x1CA, 0x1CA, 1, 0x1CC),
  (0x1CB, 0x1DB, 2, 0x1CC), (0x1DE, 0x1EE, 2, 0x1DF), (0x1F1, 0x1F1, 1, 0x1F3),
  (0x1F2, 0x1F4, 2, 0x1F3), (0x1F6, 0x1F6, 1, 0x195), (0x1F7, 0x1F7, 1, 0x1BF),
  (0x1F8, 0x21E, 2, 0x1F9), (0x220, 0x220, 1, 0x19E), (0x222, 0x232, 2, 0x223),
  (0x23A, 0x23A, 1, 0x2C65), (0x23B, 0x23B, 1, 0x23C), (0x23D, 0x23D, 1, 0x19A),
  (0x23E, 0x23E, 1, 0x2C66), (0x241, 0x241, 1, 0x242), (0x243, 0x243, 1, 0x180),
  (0x244, 0x244, 1, 0x289), (0x245, 0x245, 1, 0x28C), (0x246, 0x24E, 2, 0x247),
  (0x345, 0x345, 1, 0x3B9), (0x370, 0x372, 2, 0x371), (0x376, 0x376, 1, 0x377),
  (0x37F, 0x37F, 1, 0x3F3), (0x386, 0x386, 1, 0x3AC), (0x388, 0x38A, 1, 0x3AD),
  (0x38C, 0x38C, 1, 0x3CC), (0x38E, 0x38F, 1, 0x3CD), (0x391, 0x3A1, 1, 0x3B1),
  (0x3A3, 0x3AB, 1, 0x3C3), (0x3C2, 0x3C2, 1, 0x3C3), (0x3CF, 0x3CF, 1, 0x3D7),
  (0x3D0, 0x3D0, 1, 0x3B2), (0x3D1, 0x3D1, 1, 0x3B8), (0x3D5, 0x3D5, 1, 0x3C6),
  (0x3D6, 0x3D6, 1, 0x3C0), (0x3D8, 0x3EE, 2, 0x3D9), (0x3F0, 0x3F0, 1, 0x3BA),
  (0x3F1, 0x3F1, 1, 0x3C1), (0x3F4, 0x3F4, 1, 0x3B8), (0x3F5, 0x3F5, 1, 0x3B5),
  (0x3F7, 0x3F7, 1, 0x3F8), (0x3F9, 0x3F9, 1, 0x3F2), (0x3FA, 0x3FA, 1, 0x3FB),
  (0x3FD, 0x3FF, 1, 0x37B), (0x400, 0x40F, 1, 0x450), (0x410, 0x42F, 1, 0x430),
  (0x460, 0x480, 2, 0x461), (0x48A, 0x4BE, 2, 0x48B), (0x4C0, 0x4C0, 1, 0x4CF),
  (0x4C1, 0x4CD, 2, 0x4C2), (0x4D0, 0x52E, 2, 0x4D1), (0x531, 0x556, 1, 0x561),
  (0x10A0, 0x10C5, 1, 0x2D00), (0x10C7, 0x10C7, 1, 0x2D27), (0x10CD, 0x10CD, 1, 0x2D2D),
  (0x13F8, 0x13FD, 1, 0x13F0), (0x1C80, 0x1C80, 1, 0x432), (0x1C81, 0x1C81, 1, 0x434),
  (0x1C82, 0x1C82, 1, 0x43E), (0x1C83, 0x1C84, 1, 0x441), (0x1C85, 0x1C85, 1, 0x442),
  (0x1C86, 0x1C86, 1, 0x44A), (0x1C87, 0x1C87, 1, 0x463), (0x1C88, 0x1C88, 1, 0xA64B),
  (0x1C90, 0x1CBA, 1, 0x10D0), (0x1CBD, 0x1CBF, 1, 0x10FD), (0x1E00, 0x1E94, 2, 0x1E01),
  (0x1E9B, 0x1E9B, 1, 0x1E61), (0x1EA0, 0x1EFE, 2, 0x1EA1), (0x1F08, 0x1F0F, 1, 0x1F00),
  (0x1F18, 0x1F1D, 1, 0x1F10), (0x1F28, 0x1F2F, 1, 0x1F20), (0x1F38, 0x1F3F, 1, 0x1F30),
  (0x1F48, 0x1F4D, 1, 0x1F40), (0x1F59, 0x1F5F, 2, 0x1F51), (0x1F68, 0x1F6F, 1, 0x1F60),
  (0x1FB8, 0x1FB9, 1, 0x1FB0), (0x1FBA, 0x1FBB, 1, 0x1F70), (0x1FBE, 0x1FBE, 1, 0x3B9),
  (0x1FC8, 0x1FCB, 1, 0x1F72), (0x1FD8, 0x1FD9, 1, 0x1FD0), (0x1FDA, 0x1FDB, 1, 0x1F76),
  (0x1FE8, 0x1FE9, 1, 0x1FE0), (0x1FEA, 0x1FEB, 1, 0x1F7A), (0x1FEC, 0x1FEC, 1, 0x1FE5),
  (0x1FF8, 0x1FF9, 1, 0x1F78), (0x1FFA, 0x1FFB, 1, 0x1F7C), (0x2126, 0x2126, 1, 0x3C9),
  (0x212A, 0x212A, 1, 0x6B), (0x212B, 0x212B, 1, 0xE5), (0x2132, 0x2132, 1, 0x214E),
  (0x2160, 0x216F, 1, 0x2170), (0x2183, 0x2183, 1, 0x2184), (0x24B6, 0x24CF, 1, 0x24D0),
  (0x2C00, 0x2C2F, 1, 0x2C30), (0x2C60, 0x2C60, 1, 0x2C61), (0x2C62, 0x2C62, 1, 0x26B),
  (0x2C63, 0x2C63, 1, 0x1D7D), (0x2C64, 0x2C64, 1, 0x27D), (0x2C67, 0x2C6B, 2, 0x2C68),
  (0x2C6D, 0x2C6D, 1, 0x251), (0x2C6E, 0x2C6E, 1, 0x271), (0x2C6F, 0x2C6F, 1, 0x250),
  (0x2C70, 0x2C70, 1, 0x252), (0x2C72, 0x2C72, 1, 0x2C73), (0x2C75, 0x2C75, 1, 0x2C76),
  (0x2C7E, 0x2C7F, 1, 0x23F), (0x2C80, 0x2CE2, 2, 0x2C81), (0x2CEB, 0x2CED, 2, 0x2CEC),
  (0x2CF2, 0x2CF2, 1, 0x2CF3), (0xA640, 0xA66C, 2, 0xA641), (0xA680, 0xA69A, 2, 0xA681),
  (0xA722, 0xA72E, 2, 0xA723), (0xA732, 0xA76E, 2, 0xA733), (0xA779, 0xA77B, 2, 0xA77A),
  (0xA77D, 0xA77D, 1, 0x1D79), (0xA77E, 0xA786, 2, 0xA77F), (0xA78B, 0xA78B, 1, 0xA78C),
  (0xA78D, 0xA78D, 1, 0x265), (0xA790, 0xA792, 2, 0xA791), (0xA796, 0xA7A8, 2, 0xA797),
  (0xA7AA, 0xA7AA, 1, 0x266), (0xA7AB, 0xA7AB, 1, 0x25C), (0xA7AC, 0xA7AC, 1, 0x261),
  (0xA7AD, 0xA7AD, 1, 0x26C), (0xA7AE, 0xA7AE, 1, 0x26A), (0xA7B0, 0xA7B0, 1, 0x29E),
  (0xA7B1, 0xA7B1, 1, 0x287), (0xA7B2, 0xA7B2, 1, 0x29D), (0xA7B3, 0xA7B3, 1, 0xAB53),
  (0xA7B4, 0xA7C2, 2, 0xA7B5), (0xA7C4, 0xA7C4, 1, 0xA794), (0xA7C5, 0xA7C5, 1, 0x282),
  (0xA7C6, 0xA7C6, 1, 0x1D8E), (0xA7C7, 0xA7C9, 2, 0xA7C8), (0xA7D0, 0xA7D0, 1, 0xA7D1),
  (0xA7D6, 0xA7D8, 2, 0xA7D7), (0xA7F5, 0xA7F5, 1, 0xA7F6), (0xAB70, 0xABBF, 1, 0x13A0),
  (0xFF21, 0xFF3A, 1, 0xFF41), (0x10400, 0x10427, 1, 0x10428), (0x104B0, 0x104D3, 1, 0x104D8),
  (0x10570, 0x10594, 2, 0x10597), (0x10571, 0x1057A, 1, 0x10598), (0x1057D, 0x1058A, 1, 0x105A4),
  (0x1058D, 0x10592, 1, 0x105B4), (0x10595, 0x10595, 1, 0x105BC), (0x10C80, 0x10CB2, 1, 0x10CC0),
  (0x118A0, 0x118BF, 1, 0x118C0), (0x16E40, 0x16E5F, 1, 0x16E60), (0x1E900, 0x1E921, 1, 0x1E922)]

/-- The characters that fold to more than one. -/
def foldExpansions : List (Nat × List Nat) :=
  [(0xDF, [0x73, 0x73]), (0x130, [0x69, 0x307]), (0x149, [0x2BC, 0x6E]), (0x1F0, [0x6A, 0x30C]),
  (0x390, [0x3B9, 0x308, 0x301]), (0x3B0, [0x3C5, 0x308, 0x301]), (0x587, [0x565, 0x582]),
  (0x1E96, [0x68, 0x331]), (0x1E97, [0x74, 0x308]), (0x1E98, [0x77, 0x30A]),
  (0x1E99, [0x79, 0x30A]), (0x1E9A, [0x61, 0x2BE]), (0x1E9E, [0x73, 0x73]),
  (0x1F50, [0x3C5, 0x313]), (0x1F52, [0x3C5, 0x313, 0x300]), (0x1F54, [0x3C5, 0x313, 0x301]),
  (0x1F56, [0x3C5, 0x313, 0x342]), (0x1F80, [0x1F00, 0x3B9]), (0x1F81, [0x1F01, 0x3B9]),
  (0x1F82, [0x1F02, 0x3B9]), (0x1F83, [0x1F03, 0x3B9]), (0x1F84, [0x1F04, 0x3B9]),
  (0x1F85, [0x1F05, 0x3B9]), (0x1F86, [0x1F06, 0x3B9]), (0x1F87, [0x1F07, 0x3B9]),
  (0x1F88, [0x1F00, 0x3B9]), (0x1F89, [0x1F01, 0x3B9]), (0x1F8A, [0x1F02, 0x3B9]),
  (0x1F8B, [0x1F03, 0x3B9]), (0x1F8C, [0x1F04, 0x3B9]), (0x1F8D, [0x1F05, 0x3B9]),
  (0x1F8E, [0x1F06, 0x3B9]), (0x1F8F, [0x1F07, 0x3B9]), (0x1F90, [0x1F20, 0x3B9]),
  (0x1F91, [0x1F21, 0x3B9]), (0x1F92, [0x1F22, 0x3B9]), (0x1F93, [0x1F23, 0x3B9]),
  (0x1F94, [0x1F24, 0x3B9]), (0x1F95, [0x1F25, 0x3B9]), (0x1F96, [0x1F26, 0x3B9]),
  (0x1F97, [0x1F27, 0x3B9]), (0x1F98, [0x1F20, 0x3B9]), (0x1F99, [0x1F21, 0x3B9]),
  (0x1F9A, [0x1F22, 0x3B9]), (0x1F9B, [0x1F23, 0x3B9]), (0x1F9C, [0x1F24, 0x3B9]),
  (0x1F9D, [0x1F25, 0x3B9]), (0x1F9E, [0x1F26, 0x3B9]), (0x1F9F, [0x1F27, 0x3B9]),
  (0x1FA0, [0x1F60, 0x3B9]), (0x1FA1, [0x1F61, 0x3B9]), (0x1FA2, [0x1F62, 0x3B9]),
  (0x1FA3, [0x1F63, 0x3B9]), (0x1FA4, [0x1F64, 0x3B9]), (0x1FA5, [0x1F65, 0x3B9]),
  (0x1FA6, [0x1F66, 0x3B9]), (0x1FA7, [0x1F67, 0x3B9]), (0x1FA8, [0x1F60, 0x3B9]),
  (0x1FA9, [0x1F61, 0x3B9]), (0x1FAA, [0x1F62, 0x3B9]), (0x1FAB, [0x1F63, 0x3B9]),
  (0x1FAC, [0x1F64, 0x3B9]), (0x1FAD, [0x1F65, 0x3B9]), (0x1FAE, [0x1F66, 0x3B9]),
  (0x1FAF, [0x1F67, 0x3B9]), (0x1FB2, [0x1F70, 0x3B9]), (0x1FB3, [0x3B1, 0x3B9]),
  (0x1FB4, [0x3AC, 0x3B9]), (0x1FB6, [0x3B1, 0x342]), (0x1FB7, [0x3B1, 0x342, 0x3B9]),
  (0x1FBC, [0x3B1, 0x3B9]), (0x1FC2, [0x1F74, 0x3B9]), (0x1FC3, [0x3B7, 0x3B9]),
  (0x1FC4, [0x3AE, 0x3B9]), (0x1FC6, [0x3B7, 0x342]), (0x1FC7, [0x3B7, 0x342, 0x3B9]),
  (0x1FCC, [0x3B7, 0x3B9]), (0x1FD2, [0x3B9, 0x308, 0x300]), (0x1FD3, [0x3B9, 0x308, 0x301]),
  (0x1FD6, [0x3B9, 0x342]), (0x1FD7, [0x3B9, 0x308, 0x342]), (0x1FE2, [0x3C5, 0x308, 0x300]),
  (0x1FE3, [0x3C5, 0x308, 0x301]), (0x1FE4, [0x3C1, 0x313]), (0x1FE6, [0x3C5, 0x342]),
  (0x1FE7, [0x3C5, 0x308, 0x342]), (0x1FF2, [0x1F7C, 0x3B9]), (0x1FF3, [0x3C9, 0x3B9]),
  (0x1FF4, [0x3CE, 0x3B9]), (0x1FF6, [0x3C9, 0x342]), (0x1FF7, [0x3C9, 0x342, 0x3B9]),
  (0x1FFC, [0x3C9, 0x3B9]), (0xFB00, [0x66, 0x66]), (0xFB01, [0x66, 0x69]),
  (0xFB02, [0x66, 0x6C]), (0xFB03, [0x66, 0x66, 0x69]), (0xFB04, [0x66, 0x66, 0x6C]),
  (0xFB05, [0x73, 0x74]), (0xFB06, [0x73, 0x74]), (0xFB13, [0x574, 0x576]),
  (0xFB14, [0x574, 0x565]), (0xFB15, [0x574, 0x56B]), (0xFB16, [0x57E, 0x576]),
  (0xFB17, [0x574, 0x56D])]

def foldChar (c : CodePoint) : Str :=
  match foldExpansions.lookup c.val with
  | some expansion => expansion.map (Fin.ofNat 0x110000)
  | none =>
    let run := foldRuns.find? fun (first, last, stride, _) =>
      first ≤ c.val && c.val ≤ last && (c.val - first) % stride == 0
    match run with
    | some (first, _, _, target) => [Fin.ofNat 0x110000 (target + (c.val - first))]
    | none => [c]

def casefold (s : Str) : Str :=
  s.flatMap foldChar

section

/-- A code point of a text that has UTF-8 bytes, other than NUL. -/
def plain (n : Nat) : Bool :=
  0 < n && (n < 0xD800 || 0xDFFF < n && n < 0x110000)

theorem plain_foldExpansions
    : foldExpansions.all (fun entry => entry.2.all plain) = true := by
  decide +kernel

theorem plain_foldRuns
    : foldRuns.all (fun (first, last, _, target) =>
        0 < target && (target + (last - first) < 0xD800
          || 0xDFFF < target && target + (last - first) < 0x110000)) = true := by
  decide +kernel

theorem val_ofNat {n : Nat} (h : plain n = true) : (Fin.ofNat 0x110000 n).val = n := by
  simp only [plain, Bool.and_eq_true, Bool.or_eq_true, decide_eq_true_eq] at h
  rw [Fin.val_ofNat]
  apply Nat.mod_eq_of_lt
  omega

theorem mem_foldExpansions {n : Nat} {expansion : List Nat}
    (h : foldExpansions.lookup n = some expansion) : (n, expansion) ∈ foldExpansions := by
  rcases List.lookup_eq_some_iff.mp h with ⟨before, after, hentries, _⟩
  rw [hentries]
  simp

/-- What a character is folded to is itself, or no surrogate and not NUL. -/
theorem mem_foldChar {c d : CodePoint} (h : d ∈ foldChar c) : d = c ∨ plain d.val = true := by
  unfold foldChar at h
  split at h
  . next expansion hlookup =>
    rcases List.mem_map.mp h with ⟨n, hn, rfl⟩
    have hmem := mem_foldExpansions hlookup
    have hentry := List.all_eq_true.mp plain_foldExpansions _ hmem
    have hplain := List.all_eq_true.mp hentry n hn
    rw [val_ofNat hplain]
    exact Or.inr hplain
  . dsimp only at h
    split at h
    . next first last stride target hfind =>
      rw [List.mem_singleton] at h
      have hrun := List.all_eq_true.mp plain_foldRuns _ (List.mem_of_find?_eq_some hfind)
      have hfound := List.find?_some hfind
      simp only [Bool.and_eq_true, Bool.or_eq_true, decide_eq_true_eq] at hrun hfound
      have hplain : plain (target + (c.val - first)) = true := by
        simp only [plain, Bool.and_eq_true, Bool.or_eq_true, decide_eq_true_eq]
        omega
      rw [h, val_ofNat hplain]
      exact Or.inr hplain
    . rw [List.mem_singleton] at h
      exact Or.inl h

theorem foldChar_nul : foldChar 0 = [0] := by
  decide +kernel

theorem nul_mem_casefold {s : Str} : 0 ∈ casefold s ↔ 0 ∈ s := by
  rw [casefold, List.mem_flatMap]
  constructor
  . rintro ⟨c, hc, hmem⟩
    rcases mem_foldChar hmem with h | h
    . rwa [← h] at hc
    . simp [plain] at h
  . intro h
    refine ⟨0, h, ?_⟩
    rw [foldChar_nul]
    apply List.mem_singleton_self

theorem encodable_casefold {s : Str} (h : encodable s = true) : encodable (casefold s) = true := by
  simp only [encodable, List.all_eq_true, Bool.not_eq_true'] at h ⊢
  intro d hd
  rcases List.mem_flatMap.mp hd with ⟨c, hc, hmem⟩
  rcases mem_foldChar hmem with hsame | hplain
  . rw [hsame]
    exact h c hc
  . simp only [plain, Bool.and_eq_true, Bool.or_eq_true, decide_eq_true_eq] at hplain
    simp only [isSurrogate, Bool.and_eq_false_iff, decide_eq_false_iff_not]
    omega

/-- The members of a run, moved so that it begins at another place. -/
def runFrom (start first last stride : Nat) : List Nat :=
  (List.range ((last - first) / stride + 1)).map fun k => start + k * stride

def foldSources : List Nat :=
  foldExpansions.map Prod.fst
    ++ foldRuns.flatMap fun (first, last, stride, _) => runFrom first first last stride

def foldTargets : List Nat :=
  foldExpansions.flatMap Prod.snd
    ++ foldRuns.flatMap fun (first, last, stride, target) => runFrom target first last stride

theorem mem_runFrom (start : Nat) {first last stride n : Nat} (hlast : n ≤ last)
    (hstride : (n - first) % stride = 0)
    : start + (n - first) ∈ runFrom start first last stride := by
  apply List.mem_map.mpr
  refine ⟨(n - first) / stride, ?_, ?_⟩
  . rw [List.mem_range, Nat.lt_succ_iff]
    apply Nat.div_le_div_right
    omega
  . rw [Nat.div_mul_cancel (Nat.dvd_of_mod_eq_zero hstride)]

theorem foldChar_cases (c : CodePoint)
    : foldChar c = [c] ∨ c.val ∈ foldSources ∧ ∀ d ∈ foldChar c, d.val ∈ foldTargets := by
  unfold foldChar
  split
  . next expansion hlookup =>
    have hmem := mem_foldExpansions hlookup
    right
    constructor
    . apply List.mem_append_left
      exact List.mem_map.mpr ⟨_, hmem, rfl⟩
    . intro d hd
      rcases List.mem_map.mp hd with ⟨n, hn, rfl⟩
      have hentry := List.all_eq_true.mp plain_foldExpansions _ hmem
      rw [val_ofNat (List.all_eq_true.mp hentry n hn)]
      apply List.mem_append_left
      exact List.mem_flatMap.mpr ⟨_, hmem, hn⟩
  . dsimp only
    split
    . next first last stride target hfind =>
      have hmem := List.mem_of_find?_eq_some hfind
      have hrun := List.all_eq_true.mp plain_foldRuns _ hmem
      have hfound := List.find?_some hfind
      simp only [Bool.and_eq_true, Bool.or_eq_true, decide_eq_true_eq, beq_iff_eq] at hrun hfound
      right
      constructor
      . apply List.mem_append_right
        apply List.mem_flatMap.mpr
        refine ⟨_, hmem, ?_⟩
        have hself := mem_runFrom first hfound.1.2 hfound.2
        rwa [Nat.add_sub_cancel' hfound.1.1] at hself
      . intro d hd
        have hplain : plain (target + (c.val - first)) = true := by
          simp only [plain, Bool.and_eq_true, Bool.or_eq_true, decide_eq_true_eq]
          omega
        rw [List.mem_singleton.mp hd, val_ofNat hplain]
        apply List.mem_append_right
        apply List.mem_flatMap.mpr
        exact ⟨_, hmem, mem_runFrom _ hfound.1.2 hfound.2⟩
    . exact .inl rfl

def mask (ns : List Nat) : Nat :=
  ns.foldr (fun n m => m ||| 1 <<< n) 0

theorem testBit_mask {ns : List Nat} {n : Nat} (h : n ∈ ns) : (mask ns).testBit n = true := by
  induction ns with
  | nil => simp at h
  | cons head rest ih =>
    rw [mask, List.foldr_cons, Nat.testBit_or, Bool.or_eq_true]
    rcases List.mem_cons.mp h with rfl | h
    . right
      simp
    . exact .inl (ih h)

theorem mask_disjoint : mask foldSources &&& mask foldTargets = 0 := by
  decide +kernel

/-- What a character is folded to is folded already. -/
theorem foldChar_of_mem {c d : CodePoint} (h : d ∈ foldChar c) : foldChar d = [d] := by
  rcases foldChar_cases c with hc | ⟨_, htargets⟩
  . rw [hc, List.mem_singleton] at h
    rw [h, hc]
  . rcases foldChar_cases d with hd | ⟨hsource, _⟩
    . exact hd
    . have hboth : (mask foldSources &&& mask foldTargets).testBit d.val = true := by
        rw [Nat.testBit_and, testBit_mask hsource, testBit_mask (htargets d h)]
        rfl
      rw [mask_disjoint, Nat.zero_testBit] at hboth
      injection hboth

theorem casefold_casefold (s : Str) : casefold (casefold s) = casefold s := by
  rw [casefold, casefold, List.flatMap_assoc]
  apply List.flatMap_congr
  intro c _
  have hfixed : ∀ d ∈ foldChar c, foldChar d = [d] := fun d => foldChar_of_mem
  rw [List.flatMap_congr hfixed, List.flatMap_singleton']

theorem foldTargets_spaceless
    : foldTargets.all (fun n => !isSpacePy (Fin.ofNat _ n)) = true := by
  decide +kernel

theorem isSpacePy_of_mem_foldChar {c d : CodePoint} (hc : isSpacePy c = false) (h : d ∈ foldChar c)
    : isSpacePy d = false := by
  rcases foldChar_cases c with hsame | ⟨_, htargets⟩
  . rw [hsame, List.mem_singleton] at h
    rw [h, hc]
  . have htarget := List.all_eq_true.mp foldTargets_spaceless _ (htargets d h)
    rw [Bool.not_eq_true'] at htarget
    rw [← htarget]
    congr 1
    rw [Fin.ext_iff, Fin.val_ofNat, Nat.mod_eq_of_lt d.isLt]

theorem foldExpansions_ne_nil
    : foldExpansions.all (fun entry => !entry.2.isEmpty) = true := by
  decide +kernel

theorem foldChar_ne_nil (c : CodePoint) : foldChar c ≠ [] := by
  unfold foldChar
  split
  . next expansion hlookup =>
    have hmem := mem_foldExpansions hlookup
    simpa using List.all_eq_true.mp foldExpansions_ne_nil _ hmem
  . dsimp only
    split
    . simp
    . simp

theorem head?_casefold {s : Str} {d : CodePoint} (h : (casefold s).head? = some d)
    : ∃ c, s.head? = some c ∧ d ∈ foldChar c := by
  cases s with
  | nil => injection h
  | cons c s =>
    rw [casefold, List.flatMap_cons, List.head?_append_of_ne_nil _ (foldChar_ne_nil c)] at h
    exact ⟨c, rfl, List.mem_of_head? h⟩

theorem getLast?_casefold {s : Str} {d : CodePoint} (h : (casefold s).getLast? = some d)
    : ∃ c, s.getLast? = some c ∧ d ∈ foldChar c := by
  rcases List.eq_nil_or_concat s with rfl | ⟨s, c, rfl⟩
  . injection h
  . rw [casefold, List.concat_eq_append, List.flatMap_append, List.flatMap_singleton,
      List.getLast?_append_of_ne_nil _ (foldChar_ne_nil c)] at h
    exact ⟨c, by simp, List.mem_of_getLast? h⟩

/-- A text without space around it has none when it is folded. -/
theorem strip_casefold_strip (s : Str) : strip (casefold (strip s)) = casefold (strip s) := by
  apply trimBy_eq_self
  . intro d h
    rcases head?_casefold h with ⟨c, hc, hd⟩
    exact isSpacePy_of_mem_foldChar (head?_trimBy hc) hd
  . intro d h
    rcases getLast?_casefold h with ⟨c, hc, hd⟩
    exact isSpacePy_of_mem_foldChar (getLast?_trimBy hc) hd

end

end Text
