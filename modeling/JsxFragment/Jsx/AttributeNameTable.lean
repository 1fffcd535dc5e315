/-!
The attribute names that JSX spells differently from HTML, by their lower-case spelling in HTML.
-/

namespace JsxFragment.Jsx

/-- The attributes of HTML. Two of them have names that are reserved words in JavaScript. -/
def markupAttributeNames : List (String × String) :=
  [("class", "className"), ("for", "htmlFor"), ("accept-charset", "acceptCharset"),
   ("accesskey", "accessKey"), ("allowfullscreen", "allowFullScreen"),
   ("autocapitalize", "autoCapitalize"), ("autocomplete", "autoComplete"),
   ("autofocus", "autoFocus"), ("autoplay", "autoPlay"), ("cellpadding", "cellPadding"),
   ("cellspacing", "cellSpacing"), ("charset", "charSet"), ("classid", "classID"),
   ("colspan", "colSpan"), ("contenteditable", "contentEditable"), ("contextmenu", "contextMenu"),
   ("controlslist", "controlsList"), ("crossorigin", "crossOrigin"), ("datetime", "dateTime"),
   ("enctype", "encType"), ("enterkeyhint", "enterKeyHint"), ("fetchpriority", "fetchPriority"),
   ("formaction", "formAction"), ("formenctype", "formEncType"), ("formmethod", "formMethod"),
   ("formnovalidate", "formNoValidate"), ("formtarget", "formTarget"),
   ("frameborder", "frameBorder"), ("hreflang", "hrefLang"), ("http-equiv", "httpEquiv"),
   ("inputmode", "inputMode"), ("itemprop", "itemProp"), ("itemref", "itemRef"),
   ("itemscope", "itemScope"), ("itemtype", "itemType"), ("marginheight", "marginHeight"),
   ("marginwidth", "marginWidth"), ("maxlength", "maxLength"), ("mediagroup", "mediaGroup"),
   ("minlength", "minLength"), ("nomodule", "noModule"), ("novalidate", "noValidate"),
   ("playsinline", "playsInline"), ("readonly", "readOnly"), ("referrerpolicy", "referrerPolicy"),
   ("rowspan", "rowSpan"), ("spellcheck", "spellCheck"), ("srcdoc", "srcDoc"),
   ("srclang", "srcLang"), ("srcset", "srcSet"), ("tabindex", "tabIndex"), ("usemap", "useMap")]

/-- The presentation attributes of SVG and the attributes of XML. -/
def drawingAttributeNames : List (String × String) :=
  [("alignment-baseline", "alignmentBaseline"), ("baseline-shift", "baselineShift"),
   ("clip-path", "clipPath"), ("clip-rule", "clipRule"),
   ("color-interpolation", "colorInterpolation"),
   ("color-interpolation-filters", "colorInterpolationFilters"),
   ("dominant-baseline", "dominantBaseline"), ("fill-opacity", "fillOpacity"),
   ("fill-rule", "fillRule"), ("flood-color", "floodColor"), ("flood-opacity", "floodOpacity"),
   ("font-family", "fontFamily"), ("font-size", "fontSize"), ("font-style", "fontStyle"),
   ("font-weight", "fontWeight"), ("image-rendering", "imageRendering"),
   ("letter-spacing", "letterSpacing"), ("lighting-color", "lightingColor"),
   ("marker-end", "markerEnd"), ("marker-mid", "markerMid"), ("marker-start", "markerStart"),
   ("paint-order", "paintOrder"), ("pointer-events", "pointerEvents"),
   ("shape-rendering", "shapeRendering"), ("stop-color", "stopColor"),
   ("stop-opacity", "stopOpacity"), ("stroke-dasharray", "strokeDasharray"),
   ("stroke-dashoffset", "strokeDashoffset"), ("stroke-linecap", "strokeLinecap"),
   ("stroke-linejoin", "strokeLinejoin"), ("stroke-miterlimit", "strokeMiterlimit"),
   ("stroke-opacity", "strokeOpacity"), ("stroke-width", "strokeWidth"),
   ("text-anchor", "textAnchor"), ("text-decoration", "textDecoration"),
   ("text-rendering", "textRendering"), ("vector-effect", "vectorEffect"),
   ("word-spacing", "wordSpacing"), ("writing-mode", "writingMode"),
   ("xlink:actuate", "xlinkActuate"), ("xlink:arcrole", "xlinkArcrole"),
   ("xlink:href", "xlinkHref"), ("xlink:role", "xlinkRole"), ("xlink:show", "xlinkShow"),
   ("xlink:title", "xlinkTitle"), ("xlink:type", "xlinkType"), ("xml:base", "xmlBase"),
   ("xml:lang", "xmlLang"), ("xml:space", "xmlSpace"), ("xmlns:xlink", "xmlnsXlink")]

/-- The event handlers. -/
def eventHandlerNames : List (String × String) :=
  [("onclick", "onClick"), ("oncontextmenu", "onContextMenu"), ("ondblclick", "onDoubleClick"),
   ("onmousedown", "onMouseDown"), ("onmouseenter", "onMouseEnter"),
   ("onmouseleave", "onMouseLeave"), ("onmousemove", "onMouseMove"), ("onmouseout", "onMouseOut"),
   ("onmouseover", "onMouseOver"), ("onmouseup", "onMouseUp"), ("onwheel", "onWheel"),
   ("onpointerdown", "onPointerDown"), ("onpointermove", "onPointerMove"),
   ("onpointerup", "onPointerUp"), ("onpointercancel", "onPointerCancel"),
   ("onpointerenter", "onPointerEnter"), ("onpointerleave", "onPointerLeave"),
   ("onpointerover", "onPointerOver"), ("onpointerout", "onPointerOut"),
   ("ontouchstart", "onTouchStart"), ("ontouchmove", "onTouchMove"), ("ontouchend", "onTouchEnd"),
   ("ontouchcancel", "onTouchCancel"), ("ondrag", "onDrag"), ("ondragend", "onDragEnd"),
   ("ondragenter", "onDragEnter"), ("ondragleave", "onDragLeave"), ("ondragover", "onDragOver"),
   ("ondragstart", "onDragStart"), ("ondrop", "onDrop"), ("onkeydown", "onKeyDown"),
   ("onkeypress", "onKeyPress"), ("onkeyup", "onKeyUp"), ("onblur", "onBlur"),
   ("onfocus", "onFocus"), ("onfocusin", "onFocusIn"), ("onfocusout", "onFocusOut"),
   ("onchange", "onChange"), ("oninput", "onInput"), ("oninvalid", "onInvalid"),
   ("onreset", "onReset"), ("onsubmit", "onSubmit"), ("onselect", "onSelect"),
   ("oncopy", "onCopy"), ("oncut", "onCut"), ("onpaste", "onPaste"),
   ("oncompositionend", "onCompositionEnd"), ("oncompositionstart", "onCompositionStart"),
   ("oncompositionupdate", "onCompositionUpdate"), ("onabort", "onAbort"),
   ("oncanplay", "onCanPlay"), ("oncanplaythrough", "onCanPlayThrough"),
   ("ondurationchange", "onDurationChange"), ("onemptied", "onEmptied"), ("onended", "onEnded"),
   ("onerror", "onError"), ("onload", "onLoad"), ("onloadeddata", "onLoadedData"),
   ("onloadedmetadata", "onLoadedMetadata"), ("onloadstart", "onLoadStart"),
   ("onpause", "onPause"), ("onplay", "onPlay"), ("onplaying", "onPlaying"),
   ("onprogress", "onProgress"), ("onratechange", "onRateChange"), ("onseeked", "onSeeked"),
   ("onseeking", "onSeeking"), ("onstalled", "onStalled"), ("onsuspend", "onSuspend"),
   ("ontimeupdate", "onTimeUpdate"), ("onvolumechange", "onVolumeChange"),
   ("onwaiting", "onWaiting"), ("onscroll", "onScroll"), ("ontoggle", "onToggle"),
   ("onanimationstart", "onAnimationStart"), ("onanimationend", "onAnimationEnd"),
   ("onanimationiteration", "onAnimationIteration"), ("ontransitionend", "onTransitionEnd")]

/-- All names that are spelled differently. -/
def attributeNames : List (String × String) :=
  markupAttributeNames ++ drawingAttributeNames ++ eventHandlerNames

end JsxFragment.Jsx
