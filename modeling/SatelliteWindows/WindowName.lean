/-!
# Window names

The desktop knows a satellite by a window name that is made from the satellite's own name by
putting a marker in front of it. Windows without the marker are not satellites and keep their names.
-/

namespace SatelliteWindows.WindowName

/-- What a satellite's window name starts with. -/
def marker : String := "_satellite_"

/-- The window name of a satellite. -/
def ofSatellite (name : String) : String := marker ++ name

/-- Whether a window name is that of a satellite. -/
def isSatellite (windowName : String) : Bool :=
  marker.toList.isPrefixOf windowName.toList

/-- The satellite a window name stands for: the name without one marker, or the whole of it if it
carries none. -/
def satellite (windowName : String) : String :=
  if isSatellite windowName then String.ofList (windowName.toList.drop marker.toList.length)
  else windowName

/-- The window name of a satellite carries the marker. -/
theorem isSatellite_ofSatellite (name : String) : isSatellite (ofSatellite name) = true := by
  simp [isSatellite, ofSatellite]

/-- The satellite's name is recovered from its window name. -/
theorem satellite_ofSatellite (name : String) : satellite (ofSatellite name) = name := by
  rw [satellite, if_pos (isSatellite_ofSatellite name)]
  simp [ofSatellite]

end SatelliteWindows.WindowName
