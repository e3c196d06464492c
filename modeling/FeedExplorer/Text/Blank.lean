/-!
# Blank characters

The characters of the Unicode property White_Space, and cutting them off both ends of a text.
-/

namespace FeedExplorer.Text

/-- White_Space holds of exactly these twenty-five characters. -/
def isBlank (c : Char) : Bool :=
  let n := c.toNat
  (9 ≤ n && n ≤ 13) || n == 0x20 || n == 0x85 || n == 0xA0 || n == 0x1680 ||
    (0x2000 ≤ n && n ≤ 0x200A) || n == 0x2028 || n == 0x2029 || n == 0x202F ||
    n == 0x205F || n == 0x3000

/-- The text without the blanks at its end. -/
def trimEndChars (cs : List Char) : List Char :=
  (cs.reverse.dropWhile isBlank).reverse

/-- The text without the blanks at either end. -/
def trimChars (cs : List Char) : List Char :=
  trimEndChars (cs.dropWhile isBlank)

/-- `trimChars` on strings. -/
def trim (s : String) : String :=
  String.ofList (trimChars s.toList)

theorem trimEndChars_eq_self {cs : List Char} (h : ∀ c ∈ cs.getLast?, isBlank c = false) :
    trimEndChars cs = cs := by
  unfold trimEndChars
  rw [← List.head?_reverse] at h
  cases hr : cs.reverse with
  | nil => simpa using hr.symm
  | cons c r =>
    rw [hr] at h
    rw [List.dropWhile_cons_of_neg (by simp [h c rfl]), ← hr, List.reverse_reverse]

theorem getLast?_trimEndChars (cs : List Char) :
    ∀ c ∈ (trimEndChars cs).getLast?, isBlank c = false := by
  intro c hc
  rw [trimEndChars, List.getLast?_reverse, Option.mem_def] at hc
  have h := List.head?_dropWhile_not isBlank cs.reverse
  rw [hc] at h
  exact h

theorem exists_trimEndChars_append (cs : List Char) : ∃ blanks, trimEndChars cs ++ blanks = cs := by
  have h : trimEndChars cs <+: cs := by
    rw [← List.reverse_suffix, trimEndChars, List.reverse_reverse]
    exact List.dropWhile_suffix _
  exact h

theorem head?_trimChars (cs : List Char) : ∀ c ∈ (trimChars cs).head?, isBlank c = false := by
  intro c hc
  have hfront : (cs.dropWhile isBlank).head? = some c := by
    obtain ⟨blanks, hblanks⟩ := exists_trimEndChars_append (cs.dropWhile isBlank)
    rw [← hblanks, List.head?_append]
    rw [trimChars, Option.mem_def] at hc
    rw [hc, Option.some_or]
  have h := List.head?_dropWhile_not isBlank cs
  rw [hfront] at h
  exact h

theorem getLast?_trimChars (cs : List Char) :
    ∀ c ∈ (trimChars cs).getLast?, isBlank c = false :=
  getLast?_trimEndChars _

theorem trimChars_eq_self {cs : List Char} (hhead : ∀ c ∈ cs.head?, isBlank c = false)
    (hlast : ∀ c ∈ cs.getLast?, isBlank c = false) : trimChars cs = cs := by
  have hfront : cs.dropWhile isBlank = cs := by
    cases cs with
    | nil => rfl
    | cons c cs => exact List.dropWhile_cons_of_neg (by simp [hhead c rfl])
  rw [trimChars, hfront]
  exact trimEndChars_eq_self hlast

theorem mem_of_mem_trimChars {cs : List Char} {c : Char} (h : c ∈ trimChars cs) : c ∈ cs := by
  obtain ⟨blanks, hblanks⟩ := exists_trimEndChars_append (cs.dropWhile isBlank)
  have hfront : c ∈ cs.dropWhile isBlank := hblanks ▸ List.mem_append_left blanks h
  exact (List.dropWhile_suffix _).subset hfront

end FeedExplorer.Text
