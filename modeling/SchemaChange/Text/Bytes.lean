/-!
# Text.Bytes — places in a text by bytes

Some programs count places in a text by the bytes of its UTF-8 form. Not every place lies between
two characters.

- `byteLength` : the bytes of a text
- `dropBytes?` : the text behind a place
- `takeBytes?` : the text before a place
- `slice?`     : the text between two places
-/

namespace SchemaChange
namespace Text

def byteLength (cs : List Char) : Nat :=
  cs.foldr (fun c bytes => c.utf8Size + bytes) 0

/-- The text behind so many bytes, unless the place lies inside a character or beyond the text. -/
def dropBytes? : Nat → List Char → Option (List Char)
  | 0, cs => some cs
  | _ + 1, [] => none
  | n + 1, c :: cs =>
      if c.utf8Size ≤ n + 1 then dropBytes? (n + 1 - c.utf8Size) cs else none

/-- The text of so many bytes at the front. -/
def takeBytes? : Nat → List Char → Option (List Char)
  | 0, _ => some []
  | _ + 1, [] => none
  | n + 1, c :: cs =>
      if c.utf8Size ≤ n + 1 then (takeBytes? (n + 1 - c.utf8Size) cs).map (c :: ·) else none

/-- The text between two places. -/
def slice? (first last : Nat) (cs : List Char) : Option (List Char) :=
  (dropBytes? first cs).bind (takeBytes? (last - first))

theorem dropBytes?_append (pre post : List Char) :
    dropBytes? (byteLength pre) (pre ++ post) = some post := by
  induction pre with
  | nil => simp [byteLength, dropBytes?]
  | cons c cs ih =>
      have pos := c.utf8Size_pos
      obtain ⟨n, hn⟩ : ∃ n, byteLength (c :: cs) = n + 1 :=
        ⟨byteLength (c :: cs) - 1, by simp [byteLength]; omega⟩
      have rest : n + 1 - c.utf8Size = byteLength cs := by
        simp [byteLength] at hn ⊢; omega
      have fits : c.utf8Size ≤ n + 1 := by
        simp [byteLength] at hn; omega
      rw [hn, List.cons_append, dropBytes?, if_pos fits, rest, ih]

end Text
end SchemaChange
