import Mathlib.Data.List.Basic

/-!
# Table views

A table view asks its data source for the number of rows when it reloads and
for the cell of a row when it shows the row; between reloads it keeps the number
and the cells.  A row is stored with the model that its cell was configured for.
Nothing here ties the table to the sequence behind the data source: that they
agree is what an owner of both has to maintain.
-/

namespace Chatik.Library

variable {Model Cell : Type*}

structure TableView (Model Cell : Type*) where
  numberOfRows : Nat
  rows : Nat → Option (Model × Cell)

namespace TableView

def empty : TableView Model Cell := ⟨0, fun _ => none⟩

def reloadData (_ : TableView Model Cell) (count : Nat) : TableView Model Cell :=
  ⟨count, fun _ => none⟩

def display (table : TableView Model Cell) (row : Nat) (model : Model) (cell : Cell) :
    TableView Model Cell :=
  { table with rows := fun r => if r = row then some (model, cell) else table.rows r }

/-- The table has one row for each element of the sequence, and a row that has
been shown was configured for the element at its index. -/
structure Agrees (shows : Cell → Model → Prop) (table : TableView Model Cell)
    (models : List Model) : Prop where
  count : table.numberOfRows = models.length
  rows : ∀ row model cell, table.rows row = some (model, cell) →
    models[row]? = some model ∧ shows cell model

variable {shows : Cell → Model → Prop} {table : TableView Model Cell}
  {models : List Model}

theorem agrees_empty : Agrees shows (empty : TableView Model Cell) [] :=
  ⟨rfl, fun _ _ _ h => by cases h⟩

theorem agrees_reloadData (table : TableView Model Cell) (models : List Model) :
    Agrees shows (table.reloadData models.length) models :=
  ⟨rfl, fun _ _ _ h => by cases h⟩

theorem Agrees.display {row : Nat} {model : Model} {cell : Cell}
    (h : Agrees shows table models) (hmodel : models[row]? = some model)
    (hcell : shows cell model) : Agrees shows (table.display row model cell) models := by
  refine ⟨h.count, fun r shown c hrow => ?_⟩
  simp only [TableView.display] at hrow
  split at hrow
  · rename_i hr
    obtain ⟨rfl, rfl⟩ := Prod.mk.inj (Option.some.inj hrow)
    exact ⟨hr ▸ hmodel, hcell⟩
  · exact h.rows r shown c hrow

/-- A row below the number of rows is an index of the sequence. -/
theorem Agrees.exists_model (h : Agrees shows table models) {row : Nat}
    (hrow : row < table.numberOfRows) : ∃ model, models[row]? = some model :=
  ⟨_, List.getElem?_eq_getElem (h.count ▸ hrow)⟩

end TableView

end Chatik.Library
