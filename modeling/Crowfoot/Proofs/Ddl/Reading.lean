import Crowfoot.Proofs.Outcome
import Crowfoot.Ddl.Source
import Crowfoot.Ddl.Script

/-
Scripts come to their reader as they were written: nothing is trimmed off a script that says something, and a named
dialect is the only one that is tried.

- `render_trimmed`: no command begins or ends with white space.
- `importTextWith_render`: a script makes the schema that is assembled of the statements read in it.
-/

namespace Crowfoot

namespace Text

/-! ## Trimmed text -/

/-- text that neither begins nor ends with white space -/
structure Trimmed (cs : List Char) : Prop where
  head : ∃ c, cs.head? = some c ∧ isBlank c = false
  last : ∃ c, cs.getLast? = some c ∧ isBlank c = false

/-- only the two ends of a text count -/
theorem trimmed_append {xs zs : List Char} (ys : List Char) (hx : ∃ c, xs.head? = some c ∧ isBlank c = false)
    (hz : ∃ c, zs.getLast? = some c ∧ isBlank c = false) : Trimmed (xs ++ ys ++ zs) := by
  obtain ⟨a, ha, hblank⟩ := hx
  obtain ⟨b, hb, hblank'⟩ := hz
  refine ⟨⟨a, ?_, hblank⟩, ⟨b, ?_, hblank'⟩⟩
  · rw [List.append_assoc, List.head?_append, ha, Option.some_or]
  · rw [List.getLast?_append, hb, Option.some_or]

theorem dropWhile_eq_self {p : Char → Bool} {cs : List Char} (h : ∃ c, cs.head? = some c ∧ p c = false) :
    cs.dropWhile p = cs := by
  obtain ⟨c, hc, hp⟩ := h
  obtain ⟨rest, rfl⟩ := List.head?_eq_some_iff.1 hc
  rw [List.dropWhile_cons_of_neg (by simp [hp])]

theorem trim_eq_self {s : String} (h : Trimmed s.toList) : trim s = s := by
  rw [trim, stripBoth, dropWhile_eq_self h.head, dropWhile_eq_self (by rw [List.head?_reverse]; exact h.last),
    List.reverse_reverse, String.ofList_toList]

theorem intercalate_trimmed (between : String) {xs : List String} (hne : xs ≠ []) (h : ∀ x ∈ xs, Trimmed x.toList) :
    Trimmed (between.intercalate xs).toList := by
  induction xs with
  | nil => exact absurd rfl hne
  | cons x xs ih =>
    obtain ⟨hx, hxs⟩ := List.forall_mem_cons.1 h
    by_cases hnil : xs = []
    · rw [hnil, String.intercalate_singleton]
      exact hx
    · rw [String.intercalate_cons_of_ne_nil hnil, String.toList_append, String.toList_append]
      exact trimmed_append _ hx.head (ih hnil hxs).last

end Text

namespace Ddl

/-! ## Rendered scripts -/

theorem Command.render_trimmed (d : Dialect) (c : Command) : Text.Trimmed (c.render d).toList := by
  cases c with
  | createTable name columns =>
    show Text.Trimmed ("CREATE TABLE " ++ quotedName d name ++ " (\n" ++
      String.intercalate ",\n" (columns.map (ColumnLine.render d)) ++ "\n);").toList
    exact ⟨⟨'C', by simp, by decide⟩, ⟨';', by rw [String.toList_append, List.getLast?_append]; simp, by decide⟩⟩
  | addForeignKey table constraint column target targetColumn =>
    show Text.Trimmed ("ALTER TABLE " ++ quotedName d table ++ " ADD CONSTRAINT " ++ quotedName d constraint ++
      " FOREIGN KEY (" ++ quotedName d column ++ ") REFERENCES " ++ quotedName d target ++ " (" ++
      quotedName d targetColumn ++ ");").toList
    exact ⟨⟨'A', by simp, by decide⟩, ⟨';', by rw [String.toList_append, List.getLast?_append]; simp, by decide⟩⟩

theorem render_trimmed (d : Dialect) {cs : List Command} (hcs : cs ≠ []) : Text.Trimmed (render d cs).toList := by
  refine Text.intercalate_trimmed _ (by simpa using hcs) fun x hx => ?_
  obtain ⟨c, -, rfl⟩ := List.mem_map.1 hx
  exact c.render_trimmed d

/-! ## Reading -/

variable {κ σ : Type}

theorem exportText_eq {d : Dialect} {dialect : Option String} (hd : Dialect.resolve? dialect = .ok (some d))
    (s : Schema κ) : exportText s dialect = .ok (render d (script s)) := by
  rw [exportText, hd]
  rfl

variable [Coordinate κ] [IdSupply σ]

/-- a script that says something makes what its statements make -/
theorem importTextWith_render {read : Reader} {d : Dialect} {dialect : Option String}
    (hd : Dialect.resolve? dialect = .ok (some d)) {cs : List Command} (hcs : cs ≠ []) {statements : List Statement}
    (hread : read d (render d cs) = .ok statements) (ids : σ) :
    (importTextWith read (render d cs) dialect ids : Except ImportError (Schema κ × σ)) =
      (assemble statements ids).mapError ImportError.assembly := by
  have htrim : Text.trim (render d cs) = render d cs := Text.trim_eq_self (render_trimmed d hcs)
  have hne : render d cs ≠ "" := by
    intro hempty
    obtain ⟨c, hc, -⟩ := (render_trimmed d hcs).head
    rw [hempty] at hc
    cases hc
  have hreading : firstReading read (render d cs) [d] = .ok statements := by
    unfold firstReading
    rw [hread]
  rw [importTextWith, htrim, if_neg hne, hd]
  simp only [except_mapError_ok, except_ok_bind, hreading]

/-- nothing makes nothing -/
theorem importTextWith_render_nil (read : Reader) (d : Dialect) (dialect : Option String) (ids : σ) :
    importTextWith read (render d []) dialect ids = .ok ((Schema.empty : Schema κ), ids) := by
  have htrim : Text.trim (render d []) = "" := by simp [render, Text.trim, Text.stripBoth]
  rw [importTextWith, htrim, if_pos rfl]
  rfl

end Ddl

end Crowfoot
