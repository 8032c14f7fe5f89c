/-! The result codes of the source, with Linux numbering. Negated errno values
and libusb's own codes share one `int`, and some of them coincide, so codes are
integers here as well. -/
namespace SianoUserland.Errno

abbrev noent : Int := 2
abbrev intr : Int := 4
abbrev io : Int := 5
abbrev nxio : Int := 6
abbrev badf : Int := 9
abbrev again : Int := 11
abbrev nomem : Int := 12
abbrev busy : Int := 16
abbrev nodev : Int := 19
abbrev inval : Int := 22
abbrev range : Int := 34
abbrev badmsg : Int := 74
abbrev overflow : Int := 75
abbrev msgsize : Int := 90
abbrev nobufs : Int := 105
abbrev shutdown : Int := 108
abbrev timedout : Int := 110
abbrev already : Int := 114
abbrev canceled : Int := 125

end SianoUserland.Errno
