/-!
Tables with a heavy head and a frame. Where the space is too narrow, columns shrink, the widest first,
and a text that does not fit ends in an ellipsis.
-/

namespace Hazard.Report

/-- The quotient rounded to the nearest integer, a half to the even one. -/
def roundedQuotient (numerator denominator : Nat) : Nat :=
  let quotient := numerator / denominator
  let twice := 2 * (numerator % denominator)
  if twice < denominator then quotient
  else if denominator < twice then quotient + 1
  else quotient + quotient % 2

/-- The sum of some numbers. -/
def sumOf (numbers : List Nat) : Nat := numbers.foldl Nat.add 0

/-- Takes `total` away from widths, in shares; a column that does not take part has no share, and no
column gives more than its limit. Each column is given as its share, its limit and its width. -/
def reduceShares : Nat → Nat → List (Nat × Nat × Nat) → List Nat
  | _, _, [] => []
  | total, shares, (share, limit, width) :: rest =>
    if share == 0 || limit == 0 || shares == 0 then width :: reduceShares total shares rest
    else
      let taken := min limit (roundedQuotient (share * total) shares)
      (width - taken) :: reduceShares (total - taken) (shares - share) rest

/-- Takes `total` away from the columns that take part. -/
def reduceWidths (total : Nat) (columns : List (Nat × Nat × Nat)) : List Nat :=
  let shares := columns.map fun (share, limit, _) => if limit == 0 then 0 else share
  if sumOf shares == 0 then columns.map fun (_, _, width) => width
  else reduceShares total (sumOf shares)
    ((columns.zip shares).map fun ((_, limit, width), share) => (share, limit, width))

/-- The greatest of some numbers, or zero. -/
def greatest (numbers : List Nat) : Nat := numbers.foldl max 0

/-- Shrinks the widest columns to the next width below, again and again, until all fit. The first
number bounds the rounds. -/
def collapseWidths : Nat → Nat → List Nat → List Nat
  | 0, _, widths => widths
  | rounds + 1, space, widths =>
    if sumOf widths ≤ space then widths
    else
      let widest := greatest widths
      let second := greatest (widths.filter (· != widest))
      let excess := sumOf widths - space
      let difference := widest - second
      if difference == 0 then widths
      else
        collapseWidths rounds space
          (reduceWidths excess (widths.map fun width =>
            (if width == widest then 1 else 0, min excess difference, width)))

/-- The widths of columns whose texts, with a blank on either side, are that wide. -/
def fitWidths (space : Nat) (natural : List Nat) : List Nat :=
  if sumOf natural ≤ space then natural
  else
    let collapsed := collapseWidths (natural.length + 1) space natural
    let final :=
      if sumOf collapsed ≤ space then collapsed
      else reduceWidths (sumOf collapsed - space) (collapsed.map fun width => (1, width, width))
    List.zipWith min natural final

/-- The text in the given width, cut or filled up. -/
def fitText (width : Nat) (text : List Char) : List Char :=
  if width == 0 then []
  else if width < text.length then text.take (width - 1) ++ ['…']
  else text ++ List.replicate (width - text.length) ' '

/-- A cell: its text with a blank on either side. -/
def cell (width : Nat) (text : List Char) : List Char :=
  if width < 3 then List.replicate width ' '
  else ' ' :: fitText (width - 2) text ++ [' ']

/-- A line of cells between bars. -/
def cellLine (bar : Char) (widths : List Nat) (texts : List (List Char)) : List Char :=
  (List.zipWith cell widths texts).flatMap (bar :: ·) ++ [bar]

/-- A line of a frame. -/
def frameLine (left stroke joint right : Char) (widths : List Nat) : List Char :=
  [left] ++ ((widths.map fun width => List.replicate width stroke).intersperse [joint]).flatten ++
    [right]

/-- The lines of a table, none of which is wider than the space. -/
def tableLines (space : Nat) (header : List (List Char)) (rows : List (List (List Char))) :
    List (List Char) :=
  let column (index : Nat) : List Nat :=
    (header :: rows).map fun row => (row[index]?.getD []).length + 2
  let natural := (List.range header.length).map fun index => greatest (column index)
  let widths := fitWidths (space - (header.length + 1)) natural
  let lines :=
    [frameLine '┏' '━' '┳' '┓' widths, cellLine '┃' widths header,
      frameLine '┡' '━' '╇' '┩' widths] ++
    rows.map (cellLine '│' widths) ++
    [frameLine '└' '─' '┴' '┘' widths]
  lines.map (·.take space)

end Hazard.Report
