/-!
# Screens

Every screen has a path. The home page is at the root, the other pages are named right below it,
and the games have a place of their own.
-/

namespace Arcade.Screen

/-- The path of a page. -/
def pagePath (page : String) : String :=
  if page = "home" then "/" else "/" ++ page

/-- The path of a game. -/
def gamePath (game : String) : String := "/games/" ++ game

end Arcade.Screen
