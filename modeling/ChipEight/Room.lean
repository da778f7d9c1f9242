/-! # Room

Points and samples take room, and how much of it there is depends on where the program runs.  A
`Room` answers for that: it says for which of the things asked of it there is room, and what is
said about the others.  Nothing else is known of it here; whoever runs the program brings one.
-/
namespace ChipEight

/-- What is said where there is no room. -/
structure Shortage where
  /-- The name of the kind of shortage, as reports show it. -/
  kind : String
  /-- The sentence for it. -/
  text : String
  deriving DecidableEq, Repr

/-- What there is room for. -/
structure Room (α : Type) where
  /-- Whether there is room for what is asked. -/
  fits : α → Bool
  /-- What is said if there is not. -/
  shortage : α → Shortage

namespace Room

variable {α : Type} {room : Room α} {a : α}

/-- Find room for what is asked. -/
def find (room : Room α) (a : α) : Except Shortage Unit :=
  if room.fits a then .ok () else .error (room.shortage a)

theorem find_of_fits (h : room.fits a = true) : room.find a = .ok () := if_pos h

theorem find_of_not_fits (h : ¬room.fits a = true) : room.find a = .error (room.shortage a) :=
  if_neg h

end Room

end ChipEight
