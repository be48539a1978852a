import DartBlock.Proofs.Template

/-!
# Layouts

A layout is what a wrapper is to look like, part by part: texts, the two markers and the snippet.
Written with every percent sign doubled, each part is read back as itself whatever parts stand next
to it (`Part.read_written_append`), so that every layout with a place for the snippet can be had
from a template (`render_layout`).
-/

namespace DartBlock.Template

/-- A part of a layout. -/
inductive Part
  | text (text : String)
  | asyncMarker
  | awaitMarker
  | body
  deriving DecidableEq, Repr

namespace Part

/-- How a part is written in a template. -/
def written : Part → List Char
  | .text t => t.toList.flatMap fun c => if c = '%' then ['%', '%'] else [c]
  | .asyncMarker => ['%', 'a']
  | .awaitMarker => ['%', 'w']
  | .body => ['%', 's']

def shown (settings : Settings) (main : String) : Part → String
  | .text t => t
  | .asyncMarker => settings.asyncMarker
  | .awaitMarker => settings.awaitMarker
  | .body => main

def pieces : Part → List Piece
  | .text t => t.toList.map fun c => if c = '%' then .slot .percent else .char c
  | .asyncMarker => [.slot .asyncMarker]
  | .awaitMarker => [.slot .awaitMarker]
  | .body => [.slot .body]

/-- A part is read for itself, whatever follows. -/
theorem read_written_append (p : Part) (rest : List Char) :
    read (p.written ++ rest) = p.pieces ++ read rest := by
  cases p with
  | asyncMarker | awaitMarker | body => rfl
  | text t =>
    -- Every written character ends before the next begins, so no percent sign is left over.
    rw [written, pieces]
    induction t.toList with
    | nil => rfl
    | cons c cs ih =>
      rw [List.flatMap_cons, List.append_assoc, List.map_cons, List.cons_append, ← ih]
      by_cases hc : c = '%'
      · subst hc
        exact read_slot rfl _
      · rw [if_neg hc, if_neg hc]
        exact read_char hc _

theorem fillPieces_pieces (settings : Settings) (main : String) (p : Part) :
    fillPieces (slots settings main) p.pieces = (p.shown settings main).toList := by
  cases p with
  | asyncMarker | awaitMarker | body => exact List.append_nil _
  | text t =>
    have percent : "%".toList = ['%'] := rfl
    rw [pieces, shown]
    induction t.toList with
    | nil => rfl
    | cons c cs ih =>
      by_cases hc : c = '%'
      · subst hc
        rw [List.map_cons, if_pos rfl, fillPieces_slot, ih, slots, percent, List.singleton_append]
      · rw [List.map_cons, if_neg hc, fillPieces_char, ih]

end Part

def layout (parts : List Part) : String := String.ofList (parts.flatMap Part.written)

theorem read_layout (parts : List Part) :
    read (layout parts).toList = parts.flatMap Part.pieces := by
  rw [layout, String.toList_ofList]
  induction parts with
  | nil => rfl
  | cons p parts ih =>
    rw [List.flatMap_cons, Part.read_written_append, ih, List.flatMap_cons]

theorem fill_layout (settings : Settings) (main : String) (parts : List Part) :
    fill (slots settings main) (layout parts) =
      String.join (parts.map (Part.shown settings main)) := by
  rw [← String.toList_inj, toList_fill, read_layout, String.toList_join]
  induction parts with
  | nil => rfl
  | cons p parts ih =>
    rw [List.flatMap_cons, fillPieces_append, Part.fillPieces_pieces, ih]
    rfl

theorem hasBody_layout {parts : List Part} (h : .body ∈ parts) : hasBody (layout parts) = true := by
  rw [hasBody_iff, read_layout, List.mem_flatMap]
  exact ⟨.body, h, List.mem_singleton_self _⟩

/-- **Layouts come out as they are written.** Every layout with a place for the snippet is rendered,
and what is rendered is the top and then the parts one after the other, the texts as they are. -/
theorem render_layout (settings : Settings) (top main : String) {parts : List Part}
    (h : .body ∈ parts) :
    render settings top (layout parts) main =
      .ok (top ++ String.join (parts.map (Part.shown settings main))) := by
  rw [render_of_hasBody (hasBody_layout h), fill_layout]

/-- Percent signs and letters that meet at the ends of the parts, and a marker and a snippet that
look like places. -/
theorem render_layout_adjacent :
    let settings : Settings := { asyncMarker := "%s" }
    let parts := [.text "%", .text "s", .text "a%", .asyncMarker, .body, .text "%%w"]
    Part.body ∈ parts ∧
      render settings "%s" (layout parts) "%a" = .ok ("%s" ++ "%sa%" ++ "%s" ++ "%a" ++ "%%w") := by
  intro settings parts
  have place : Part.body ∈ parts := by decide
  have shown : "%s" ++ String.join (parts.map (Part.shown settings "%a")) =
      "%s" ++ "%sa%" ++ "%s" ++ "%a" ++ "%%w" := by decide
  exact ⟨place, (render_layout settings "%s" "%a" place).trans (congrArg Except.ok shown)⟩

end DartBlock.Template
