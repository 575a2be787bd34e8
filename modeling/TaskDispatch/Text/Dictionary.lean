/-!
# Dictionaries of texts

A dictionary holds texts under distinct names, in the order of the names.  `insert` puts a text
under a name, over an earlier one; `find?` looks a name up.  Because the order is part of the type,
two dictionaries with the same texts under the same names are equal.
-/

namespace TaskDispatch.Text

/-- Texts under names. -/
structure Dictionary where
  entries : List (String × String)
  ordered : entries.Pairwise fun left right => left.1 < right.1
deriving DecidableEq, Repr

namespace Dictionary

/-- The dictionary without entries. -/
def empty : Dictionary := ⟨[], .nil⟩

instance : Inhabited Dictionary := ⟨empty⟩

/-- Puts a text under a name into a list of entries. -/
def insertEntry (name value : String) : List (String × String) → List (String × String)
  | [] => [(name, value)]
  | (name', value') :: rest =>
      if name < name' then (name, value) :: (name', value') :: rest
      else if name = name' then (name, value) :: rest
      else (name', value') :: insertEntry name value rest

/-- The names after an insertion are the names before it and the new one. -/
theorem mem_insertEntry
    {name value : String}
    {entries : List (String × String)}
    {entry : String × String}
    (member : entry ∈ insertEntry name value entries) :
    entry = (name, value) ∨ entry ∈ entries := by
  induction entries with
  | nil => simpa [insertEntry] using member
  | cons head rest ih =>
      unfold insertEntry at member
      split at member
      · simpa using member
      · split at member
        · simp only [List.mem_cons] at member ⊢
          grind
        · simp only [List.mem_cons] at member ⊢
          grind

/-- An insertion keeps the order of the names. -/
theorem ordered_insertEntry
    (name value : String)
    {entries : List (String × String)}
    (ordered : entries.Pairwise fun left right => left.1 < right.1) :
    (insertEntry name value entries).Pairwise fun left right => left.1 < right.1 := by
  induction entries with
  | nil => simp [insertEntry]
  | cons head rest ih =>
      obtain ⟨name', value'⟩ := head
      simp only [List.pairwise_cons] at ordered
      unfold insertEntry
      split
      · simp only [List.pairwise_cons, List.mem_cons]
        refine ⟨?_, ordered⟩
        intro entry member
        rcases member with rfl | later
        · assumption
        · exact String.lt_trans ‹name < name'› (ordered.1 entry later)
      · split
        · simp only [List.pairwise_cons]
          refine ⟨?_, ordered.2⟩
          intro entry member
          have := ordered.1 entry member
          grind
        · simp only [List.pairwise_cons]
          refine ⟨?_, ih ordered.2⟩
          intro entry member
          rcases mem_insertEntry member with rfl | later
          · grind
          · exact ordered.1 entry later

/-- Puts a text under a name, over an earlier one. -/
def insert (dictionary : Dictionary) (name value : String) : Dictionary :=
  ⟨insertEntry name value dictionary.entries, ordered_insertEntry name value dictionary.ordered⟩

/-- The dictionary of a list of entries; of two with the same name the later one stays. -/
def ofList (entries : List (String × String)) : Dictionary :=
  entries.foldl (fun dictionary entry => dictionary.insert entry.1 entry.2) empty

/-- The text of the first entry with a name. -/
def lookupEntry (name : String) : List (String × String) → Option String
  | [] => none
  | (name', value) :: rest => if name = name' then some value else lookupEntry name rest

/-- The text under a name. -/
def find? (dictionary : Dictionary) (name : String) : Option String :=
  lookupEntry name dictionary.entries

theorem find?_insert_self (dictionary : Dictionary) (name value : String) :
    (dictionary.insert name value).find? name = some value := by
  show lookupEntry name (insertEntry name value dictionary.entries) = some value
  induction dictionary.entries with
  | nil => simp [insertEntry, lookupEntry]
  | cons head rest ih =>
      obtain ⟨name', value'⟩ := head
      unfold insertEntry
      split
      · simp [lookupEntry]
      · split
        · simp [lookupEntry]
        · next distinct => simpa [lookupEntry, distinct] using ih

theorem find?_insert_other
    (dictionary : Dictionary)
    {name name' : String}
    (distinct : name' ≠ name)
    (value : String) :
    (dictionary.insert name value).find? name' = dictionary.find? name' := by
  show lookupEntry name' (insertEntry name value dictionary.entries) =
    lookupEntry name' dictionary.entries
  induction dictionary.entries with
  | nil => simp [insertEntry, lookupEntry, distinct]
  | cons head rest ih =>
      obtain ⟨other, value'⟩ := head
      unfold insertEntry
      split
      · simp [lookupEntry, distinct]
      · split
        · next same => subst same; simp [lookupEntry, distinct]
        · simp only [lookupEntry, ih]

/-- Dictionaries with the same entries are equal. -/
theorem eq_of_entries
    {left right : Dictionary}
    (same : left.entries = right.entries) :
    left = right := by
  cases left
  cases right
  cases same
  rfl

/-- A name after all others goes to the end. -/
theorem insertEntry_eq_append
    {name value : String}
    {entries : List (String × String)}
    (last : ∀ entry ∈ entries, entry.1 < name) :
    insertEntry name value entries = entries ++ [(name, value)] := by
  induction entries with
  | nil => rfl
  | cons head rest ih =>
      have below : head.1 < name := last head List.mem_cons_self
      have rest := ih fun entry member => last entry (List.mem_cons_of_mem _ member)
      unfold insertEntry
      rw [if_neg (by grind), if_neg (by grind), rest]
      rfl

/-- Inserting entries in order after those of a dictionary appends them. -/
theorem entries_foldl_insert
    (entries : List (String × String))
    (dictionary : Dictionary)
    (ordered : (dictionary.entries ++ entries).Pairwise fun left right => left.1 < right.1) :
    (entries.foldl (fun dictionary entry => dictionary.insert entry.1 entry.2) dictionary).entries =
      dictionary.entries ++ entries := by
  induction entries generalizing dictionary with
  | nil => simp
  | cons head rest ih =>
      have last : ∀ entry ∈ dictionary.entries, entry.1 < head.1 := by
        rw [List.pairwise_append] at ordered
        exact fun entry member => ordered.2.2 entry member head List.mem_cons_self
      have inserted : (dictionary.insert head.1 head.2).entries = dictionary.entries ++ [head] :=
        insertEntry_eq_append last
      rw [List.foldl_cons, ih _ (by simpa [inserted] using ordered), inserted]
      simp

/-- A dictionary is that of its own entries. -/
@[simp]
theorem ofList_entries (dictionary : Dictionary) : ofList dictionary.entries = dictionary :=
  eq_of_entries (entries_foldl_insert dictionary.entries empty dictionary.ordered)

end Dictionary

end TaskDispatch.Text
