import PushRelay.Net.Domain.Mapping
import PushRelay.Text.CombiningClass

/-!
# Joiners in domains

The joiner and the non-joiner cannot be seen, so they may stand only where they change how the
characters around them are drawn: behind a virama, and the non-joiner also between letters that
would be joined.

The tables tell apart only characters that domains hold.
-/

namespace PushRelay.Domain

/-! ## Tables -/

/-- Letters that are joined to the one behind them. -/
def joinedBehind : CharSet := .ofText "
   620 626 628 62A-62E 633-63F 641-647 649-64A 66E-66F 679-687 69A-6BF 6C1-6C2 6CC 6CE 6D0-6D1
   6FA-6FC 6FF 712-714 71A-71D 71F-727 729 72B 72D-72E 74E-758 75C-76A 76D-770 772 775-777
   77A-77F 7CA-7EA 841-845 848 84A-853 855 860 862-865 868 886 889-88D 88F-8A9 8AF-8B0 8B3-8B8
   8BA-8C8 1807 1820-1878 1887-18AA A840-A872 10AC0-10AC4 10ACD 10AD3-10ADC 10ADE-10AE0
   10AEB-10AEE 10B80 10B82 10B86-10B88 10B8A-10B8B 10B8D 10B90 10BAD-10BAE 10D00-10D21 10D23
   10EC3-10EC4 10EC6-10EC7 10F30-10F32 10F34-10F44 10F51-10F53 10F70-10F73 10F76-10F81 10FB0
   10FB2-10FB3 10FB8 10FBB-10FBC 10FBE-10FBF 10FC1 10FC4 10FCA-10FCB 1E922-1E943"

/-- Letters that are joined to the one before them. -/
def joinedBefore : CharSet := .ofText "
   620 622-63F 641-64A 66E-673 679-6D3 6D5 6EE-6EF 6FA-6FC 6FF 710-77F 7CA-7EA 840-858 860
   862-865 867-882 886 889-8AC 8AE-8C8 1807 1820-1878 1887-18AA A840-A871 10AC0-10AC5 10AC7
   10AC9-10ACA 10ACE-10AD6 10AD8-10AE1 10AE4-10AEF 10B80-10B91 10BA9-10BAE 10D01-10D23
   10EC2-10EC4 10EC6-10EC7 10F30-10F44 10F51-10F54 10F70-10F81 10FB0 10FB2-10FB6 10FB8-10FBF
   10FC1-10FC4 10FC9-10FCA 1E922-1E943"

/-- Whether letters are joined over a character. -/
def isTransparent (c : Char) : Bool := Text.isNonspacing c || c.toNat == 0x1E94B

/-! ## Labels -/

/-- Whether the first character that is not transparent is one of `set`. -/
def meets (set : CharSet) (s : List Char) : Bool :=
  ((s.find? fun c => !isTransparent c).map set.contains).getD false

/-- Whether all joiners in the rest of a label may stand there.  The part before it is given last
character first. -/
def joinersFit (before : List Char) : List Char → Bool
  | [] => true
  | c :: s =>
    (!isJoiner c || before.head?.any Text.isVirama ||
      (c.toNat == 0x200C && meets joinedBehind before && meets joinedBefore s)) &&
    joinersFit (c :: before) s

end PushRelay.Domain
