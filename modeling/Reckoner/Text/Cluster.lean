import Reckoner.Text.Width

namespace Reckoner.Text

/-!
# Widths of texts and clusters

Characters that join make the width of a text differ from the sum of the widths of its
characters. A joiner hides the character after it. The mark for emoji presentation
widens a narrow emoji before it, with any characters without width between the two.

A cluster is a character with a width and what is shown together with it. A text is
cut between clusters.
-/

/-- The character that joins its neighbours into one. -/
def joiner : Char :=
  '\u200d'

/-- The mark that asks for the form as an emoji. -/
def emojiMark : Char :=
  '\ufe0f'

/-- The cells that the mark for the form as an emoji adds to the character before it. -/
def widening : Option Char → Nat
  | some character => if isNarrowEmoji character then 1 else 0
  | none => 0

/-- The character that a mark after this one would widen, if one was there before it. -/
def widenable
    (measured : Option Char)
    (character : Char) :
    Option Char :=
  if characterWidth character = 0 then measured else some character

/-- The number of cells of a text after a character that a mark would widen. -/
def widthAfter :
    Option Char →
    List Char →
    Nat
  | _, [] => 0
  | measured, character :: rest =>
      if character = joiner then
        match rest with
        | [] => 0
        | _ :: others => widthAfter measured others
      else if character = emojiMark then
        widening measured + widthAfter none rest
      else
        characterWidth character +
          widthAfter (widenable measured character) rest

/-- The number of cells that a text takes. -/
def width
    (text : List Char) :
    Nat :=
  widthAfter none text

/-- Characters that are shown together, and the cells that they take. -/
structure Cluster where
  characters : List Char
  width : Nat
  deriving Repr, DecidableEq

namespace Cluster

/-- A cluster with further characters that widen it. -/
def extended
    (cluster : Cluster)
    (characters : List Char)
    (cells : Nat) :
    Cluster :=
  ⟨cluster.characters ++ characters, cluster.width + cells⟩

end Cluster

/-- The clusters of a text that goes on after a cluster. -/
def clustersAfter :
    Cluster →
    Option Char →
    List Char →
    List Cluster
  | cluster, _, [] => [cluster]
  | cluster, measured, character :: rest =>
      if character = joiner then
        match rest with
        | [] => [cluster.extended [character] 0]
        | joined :: others =>
            clustersAfter (cluster.extended [character, joined] 0) measured others
      else if character = emojiMark then
        clustersAfter (cluster.extended [character] (widening measured)) none rest
      else if characterWidth character = 0 then
        clustersAfter (cluster.extended [character] 0) measured rest
      else
        cluster ::
          clustersAfter ⟨[character], characterWidth character⟩ (some character) rest

/-- The clusters of a text. What comes before the first character with a width is one. -/
def clusters : List Char → List Cluster
  | [] => []
  | character :: rest =>
      clustersAfter ⟨[character], characterWidth character⟩
        (widenable none character) rest

/--
The longest run of clusters that fits into a number of cells.

A wide cluster that would stick out by a cell leaves a space.
-/
def fitting : Nat → List Cluster → List Char
  | _, [] => []
  | 0, _ => []
  | cells, cluster :: rest =>
      if cluster.width ≤ cells then
        cluster.characters ++ fitting (cells - cluster.width) rest
      else
        [' ']

/-- A text cut to at most a number of cells. -/
def cutTo
    (cells : Nat)
    (text : List Char) :
    List Char :=
  fitting cells (clusters text)

/-- Clusters lose nothing of the text. -/
theorem flatMap_clustersAfter
    (cluster : Cluster)
    (measured : Option Char)
    (text : List Char) :
    (clustersAfter cluster measured text).flatMap Cluster.characters =
      cluster.characters ++ text := by
  fun_induction clustersAfter cluster measured text <;>
    simp_all [Cluster.extended]

/-- The characters of the clusters of a text are the text. -/
theorem flatMap_clusters
    (text : List Char) :
    (clusters text).flatMap Cluster.characters = text := by
  cases text with
  | nil => rfl
  | cons character rest => simp [clusters, flatMap_clustersAfter]

end Reckoner.Text
